/-
  Encodings that give each byte one character.

  A page lists the bytes whose character is not the one of the same number, in
  rows that start at a byte; U+FFFD stands for a byte without a character.

  * `CodePage.decode` is the text of bytes on a page;
  * `CodePage.all` are the pages with their names.
-/

namespace RateIsolation

/-- A page of characters. -/
structure CodePage where
  /-- The usual name. -/
  name : String
  /-- Other names. -/
  aliases : List String := []
  /-- Rows of characters, each with the byte that it starts at. -/
  rows : List (Nat × String) := []
deriving DecidableEq, Repr

namespace CodePage

/-- The character of a byte in a row. -/
def rowChar? (byte : Nat) (row : Nat × String) : Option Char :=
  if row.1 ≤ byte then row.2.toList[byte - row.1]? else none

/-- The character of a byte. -/
def char (p : CodePage) (byte : UInt8) : Char :=
  (p.rows.findSome? (rowChar? byte.toNat)).getD (Char.ofNat byte.toNat)

/-- The text of bytes. -/
def decode (p : CodePage) (bytes : List UInt8) : String := String.ofList (bytes.map p.char)

/-- All pages. -/
def all : List CodePage := [
  { name := "ascii"
    aliases := ["646", "ansi_x3.4_1968", "ansi_x3.4_1986", "ansi_x3_4_1968", "cp367", "csascii",
        "ibm367", "iso646_us", "iso_646.irv_1991", "iso_ir_6", "us", "us_ascii"]
    rows := [(0x80, "��������������������������������"), (0xa0, "��������������������������������"),
      (0xc0, "��������������������������������"), (0xe0, "��������������������������������")] },
  { name := "charmap" },
  { name := "cp037"
    aliases := ["037", "csibm037", "ebcdic_cp_ca", "ebcdic_cp_nl", "ebcdic_cp_us", "ebcdic_cp_wt",
        "ibm037", "ibm039"]
    rows := [(0x04, "\u009c\x09\u0086\x7f\u0097\u008d\u008e"),
      (0x14, "\u009d\u0085\x08\u0087\x18\x19\u0092\u008f"),
      (0x20, "\u0080\u0081\u0082\u0083\u0084\x0a\x17\x1b\u0088\u0089\u008a\u008b\u008c\x05\x06"),
      (0x2f, "\x07\u0090\u0091\x16\u0093\u0094\u0095\u0096\x04\u0098\u0099\u009a\u009b\x14\x15"),
      (0x3e, "\u009e\x1a \u00a0âäàáãåçñ¢.<(+|&éêëèíîïìß!$*)"),
      (0x5e, ";¬-/ÂÄÀÁÃÅÇÑ¦,%_>?øÉÊËÈÍÎÏÌ\x60:#@'"), (0x7e, "=\x22Øabcdefghi«»ðýþ±°jklmnopqrªºæ¸"),
      (0x9e, "Æ¤µ~stuvwxyz¡¿ÐÝÞ®^£¥·©§¶¼½¾[]¯¨"),
      (0xbe, "´×\x7bABCDEFGHI\u00adôöòóõ\x7dJKLMNOPQR¹ûüù"),
      (0xde, "úÿ\x5c÷STUVWXYZ²ÔÖÒÓÕ0123456789³ÛÜÙ"), (0xfe, "Ú\u009f")] },
  { name := "cp1006"
    rows := [
      (0xa1, "۰۱۲۳۴۵۶۷۸۹،\u061b\u00ad\u061f\ufe81\ufe8d\ufe8e\ufe8e\ufe8f\ufe91\ufb56\ufb58"),
      (0xb7, "\ufe93\ufe95\ufe97\ufb66\ufb68\ufe99\ufe9b\ufe9d\ufe9f\ufb7a\ufb7c\ufea1\ufea3"),
      (0xc4, "\ufea5\ufea7\ufea9\ufb84\ufeab\ufead\ufb8c\ufeaf\ufb8a\ufeb1\ufeb3\ufeb5\ufeb7"),
      (0xd1, "\ufeb9\ufebb\ufebd\ufebf\ufec1\ufec5\ufec9\ufeca\ufecb\ufecc\ufecd\ufece\ufecf"),
      (0xde, "\ufed0\ufed1\ufed3\ufed5\ufed7\ufed9\ufedb\ufb92\ufb94\ufedd\ufedf\ufee0\ufee1"),
      (0xeb, "\ufee3\ufb9e\ufee5\ufee7\ufe85\ufeed\ufba6\ufba8\ufba9\ufbaa\ufe80\ufe89\ufe8a"),
      (0xf8, "\ufe8b\ufef1\ufef2\ufef3\ufbb0\ufbae\ufe7c\ufe7d")] },
  { name := "cp1026"
    aliases := ["1026", "csibm1026", "ibm1026"]
    rows := [(0x04, "\u009c\x09\u0086\x7f\u0097\u008d\u008e"),
      (0x14, "\u009d\u0085\x08\u0087\x18\x19\u0092\u008f"),
      (0x20, "\u0080\u0081\u0082\u0083\u0084\x0a\x17\x1b\u0088\u0089\u008a\u008b\u008c\x05\x06"),
      (0x2f, "\x07\u0090\u0091\x16\u0093\u0094\u0095\u0096\x04\u0098\u0099\u009a\u009b\x14\x15"),
      (0x3e, "\u009e\x1a \u00a0âäàáãå\x7bñÇ.<(+!&éêëèíîïìßĞİ*)"),
      (0x5e, ";^-/ÂÄÀÁÃÅ[Ñş,%_>?øÉÊËÈÍÎÏÌı:ÖŞ'"), (0x7e, "=ÜØabcdefghi«»\x7d\x60¦±°jklmnopqrªºæ¸"),
      (0x9e, "Æ¤µöstuvwxyz¡¿]$@®¢£¥·©§¶¼½¾¬|¯¨"),
      (0xbe, "´×çABCDEFGHI\u00adô~òóõğJKLMNOPQR¹û\x5cù"),
      (0xde, "úÿü÷STUVWXYZ²Ô#ÒÓÕ0123456789³Û\x22Ù"), (0xfe, "Ú\u009f")] },
  { name := "cp1125"
    aliases := ["1125", "cp866u", "ibm1125", "ruscii"]
    rows := [(0x80, "АБВГДЕЖЗИЙКЛМНОПРСТУФХЦЧШЩЪЫЬЭЮЯ"), (0xa0, "абвгдежзийклмноп░▒▓│┤╡╢╖╕╣║╗╝╜╛┐"),
      (0xc0, "└┴┬├─┼╞╟╚╔╩╦╠═╬╧╨╤╥╙╘╒╓╫╪┘┌█▄▌▐▀"), (0xe0, "рстуфхцчшщъыьэюяЁёҐґЄєІіЇї·√№¤■\u00a0")] },
  { name := "cp1140"
    aliases := ["1140", "ibm1140"]
    rows := [(0x04, "\u009c\x09\u0086\x7f\u0097\u008d\u008e"),
      (0x14, "\u009d\u0085\x08\u0087\x18\x19\u0092\u008f"),
      (0x20, "\u0080\u0081\u0082\u0083\u0084\x0a\x17\x1b\u0088\u0089\u008a\u008b\u008c\x05\x06"),
      (0x2f, "\x07\u0090\u0091\x16\u0093\u0094\u0095\u0096\x04\u0098\u0099\u009a\u009b\x14\x15"),
      (0x3e, "\u009e\x1a \u00a0âäàáãåçñ¢.<(+|&éêëèíîïìß!$*)"),
      (0x5e, ";¬-/ÂÄÀÁÃÅÇÑ¦,%_>?øÉÊËÈÍÎÏÌ\x60:#@'"), (0x7e, "=\x22Øabcdefghi«»ðýþ±°jklmnopqrªºæ¸"),
      (0x9e, "Æ€µ~stuvwxyz¡¿ÐÝÞ®^£¥·©§¶¼½¾[]¯¨"),
      (0xbe, "´×\x7bABCDEFGHI\u00adôöòóõ\x7dJKLMNOPQR¹ûüù"),
      (0xde, "úÿ\x5c÷STUVWXYZ²ÔÖÒÓÕ0123456789³ÛÜÙ"), (0xfe, "Ú\u009f")] },
  { name := "cp1250"
    aliases := ["1250", "windows_1250"]
    rows := [(0x80, "€�‚�„…†‡�‰Š‹ŚŤŽŹ�‘’“”•–—�™š›śťžź"), (0xa0, "\u00a0ˇ˘Ł¤Ą"), (0xaa, "Ş"),
      (0xaf, "Ż°±˛ł"), (0xb9, "ąş»Ľ˝ľżŔÁÂĂÄĹĆÇČÉĘËĚÍÎĎĐŃŇÓÔŐÖ×Ř"),
      (0xd9, "ŮÚŰÜÝŢßŕáâăäĺćçčéęëěíîďđńňóôőö÷ř"), (0xf9, "ůúűüýţ˙")] },
  { name := "cp1251"
    aliases := ["1251", "windows_1251"]
    rows := [(0x80, "ЂЃ‚ѓ„…†‡€‰Љ‹ЊЌЋЏђ‘’“”•–—�™љ›њќћџ"), (0xa0, "\u00a0ЎўЈ¤Ґ¦§Ё©Є"),
      (0xaf, "Ї°±Ііґ"), (0xb8, "ё№є»јЅѕїАБВГДЕЖЗИЙКЛМНОПРСТУФХЦЧ"),
      (0xd8, "ШЩЪЫЬЭЮЯабвгдежзийклмнопрстуфхцч"), (0xf8, "шщъыьэюя")] },
  { name := "cp1252"
    aliases := ["1252", "windows_1252"]
    rows := [(0x80, "€�‚ƒ„…†‡ˆ‰Š‹Œ�Ž��‘’“”•–—˜™š›œ�žŸ")] },
  { name := "cp1253"
    aliases := ["1253", "windows_1253"]
    rows := [(0x80, "€�‚ƒ„…†‡�‰�‹�����‘’“”•–—�™�›����"), (0xa0, "\u00a0΅Ά"), (0xaa, "�"),
      (0xaf, "―"), (0xb4, "΄"), (0xb8, "ΈΉΊ»Ό½ΎΏΐΑΒΓΔΕΖΗΘΙΚΛΜΝΞΟΠΡ�ΣΤΥΦΧ"),
      (0xd8, "ΨΩΪΫάέήίΰαβγδεζηθικλμνξοπρςστυφχ"), (0xf8, "ψωϊϋόύώ�")] },
  { name := "cp1254"
    aliases := ["1254", "windows_1254"]
    rows := [(0x80, "€�‚ƒ„…†‡ˆ‰Š‹Œ����‘’“”•–—˜™š›œ��Ÿ"), (0xd0, "Ğ"), (0xdd, "İŞ"), (0xf0, "ğ"),
      (0xfd, "ış")] },
  { name := "cp1255"
    aliases := ["1255", "windows_1255"]
    rows := [(0x80, "€�‚ƒ„…†‡ˆ‰�‹�����‘’“”•–—˜™�›����"), (0xa4, "₪"), (0xaa, "×"), (0xba, "÷"),
      (0xc0, "\u05b0\u05b1\u05b2\u05b3\u05b4\u05b5\u05b6\u05b7\u05b8\u05b9�\u05bb\u05bc\u05bd"),
      (0xce, "\u05be\u05bf\u05c0\u05c1\u05c2\u05c3\u05f0\u05f1\u05f2\u05f3\u05f4�������\u05d0"),
      (0xe1, "\u05d1\u05d2\u05d3\u05d4\u05d5\u05d6\u05d7\u05d8\u05d9\u05da\u05db\u05dc\u05dd"),
      (0xee, "\u05de\u05df\u05e0\u05e1\u05e2\u05e3\u05e4\u05e5\u05e6\u05e7\u05e8\u05e9\u05ea��"),
      (0xfd, "\u200e\u200f�")] },
  { name := "cp1256"
    aliases := ["1256", "windows_1256"]
    rows := [
      (0x80, "€\u067e‚ƒ„…†‡ˆ‰\u0679‹Œ\u0686\u0698\u0688\u06af‘’“”•–—\u06a9™\u0691›œ\u200c\u200d"),
      (0x9f, "\u06ba\u00a0،"), (0xaa, "\u06be"), (0xba, "\u061b"),
      (0xbf, "\u061f\u06c1\u0621\u0622\u0623\u0624\u0625\u0626\u0627\u0628\u0629\u062a\u062b"),
      (0xcc, "\u062c\u062d\u062e\u062f\u0630\u0631\u0632\u0633\u0634\u0635\u0636×\u0637\u0638"),
      (0xda, "\u0639\u063a\u0640\u0641\u0642\u0643à\u0644â\u0645\u0646\u0647\u0648"),
      (0xec, "\u0649\u064aîï\u064b\u064c\u064d\u064eô\u064f\u0650÷\u0651ù\u0652ûü\u200e\u200f"),
      (0xff, "\u06d2")] },
  { name := "cp1257"
    aliases := ["1257", "windows_1257"]
    rows := [(0x80, "€�‚�„…†‡�‰�‹�¨ˇ¸�‘’“”•–—�™�›�¯˛�"), (0xa0, "\u00a0�"), (0xa5, "�¦§Ø©Ŗ"),
      (0xaf, "Æ"), (0xb8, "ø¹ŗ"), (0xbf, "æĄĮĀĆÄÅĘĒČÉŹĖĢĶĪĻŠŃŅÓŌ"),
      (0xd8, "ŲŁŚŪÜŻŽßąįāćäåęēčéźėģķīļšńņóō"), (0xf8, "ųłśūüżž˙")] },
  { name := "cp1258"
    aliases := ["1258", "windows_1258"]
    rows := [(0x80, "€�‚ƒ„…†‡ˆ‰�‹Œ����‘’“”•–—˜™�›œ��Ÿ"), (0xc3, "Ă"), (0xcc, "\u0300"),
      (0xd0, "ĐÑ\u0309ÓÔƠ"), (0xdd, "Ư\u0303"), (0xe3, "ă"), (0xec, "\u0301"),
      (0xf0, "đñ\u0323óôơ"), (0xfd, "ư₫")] },
  { name := "cp273"
    aliases := ["273", "csibm273", "ibm273"]
    rows := [(0x04, "\u009c\x09\u0086\x7f\u0097\u008d\u008e"),
      (0x14, "\u009d\u0085\x08\u0087\x18\x19\u0092\u008f"),
      (0x20, "\u0080\u0081\u0082\u0083\u0084\x0a\x17\x1b\u0088\u0089\u008a\u008b\u008c\x05\x06"),
      (0x2f, "\x07\u0090\u0091\x16\u0093\u0094\u0095\u0096\x04\u0098\u0099\u009a\u009b\x14\x15"),
      (0x3e, "\u009e\x1a \u00a0â\x7bàáãåçñÄ.<(+!&éêëèíîïì~Ü$*)"),
      (0x5e, ";^-/Â[ÀÁÃÅÇÑö,%_>?øÉÊËÈÍÎÏÌ\x60:#§'"), (0x7e, "=\x22Øabcdefghi«»ðýþ±°jklmnopqrªºæ¸"),
      (0x9e, "Æ¤µßstuvwxyz¡¿ÐÝÞ®¢£¥·©@¶¼½¾¬|‾¨"),
      (0xbe, "´×äABCDEFGHI\u00adô¦òóõüJKLMNOPQR¹û\x7dù"),
      (0xde, "úÿÖ÷STUVWXYZ²Ô\x5cÒÓÕ0123456789³Û]Ù"), (0xfe, "Ú\u009f")] },
  { name := "cp424"
    aliases := ["424", "csibm424", "ebcdic_cp_he", "ibm424"]
    rows := [(0x04, "\u009c\x09\u0086\x7f\u0097\u008d\u008e"),
      (0x14, "\u009d\u0085\x08\u0087\x18\x19\u0092\u008f"),
      (0x20, "\u0080\u0081\u0082\u0083\u0084\x0a\x17\x1b\u0088\u0089\u008a\u008b\u008c\x05\x06"),
      (0x2f, "\x07\u0090\u0091\x16\u0093\u0094\u0095\u0096\x04\u0098\u0099\u009a\u009b\x14\x15"),
      (0x3e, "\u009e\x1a \u05d0\u05d1\u05d2\u05d3\u05d4\u05d5\u05d6\u05d7\u05d8¢.<(+|&\u05d9"),
      (0x52, "\u05da\u05db\u05dc\u05dd\u05de\u05df\u05e0\u05e1!$*);¬-/\u05e2\u05e3\u05e4\u05e5"),
      (0x66, "\u05e6\u05e7\u05e8\u05e9¦,%_>?�\u05ea��\u00a0���‗\x60:#@'=\x22�abcde"),
      (0x86, "fghi«»���±°jklmnopqr���¸�¤µ~stuv"), (0xa6, "wxyz�����®^£¥·©§¶¼½¾[]¯¨´×\x7bABCDE"),
      (0xc6, "FGHI\u00ad�����\x7dJKLMNOPQR¹�����\x5c÷STUV"),
      (0xe6, "WXYZ²�����0123456789³����\u009f")] },
  { name := "cp437"
    aliases := ["437", "cspc8codepage437", "ibm437"]
    rows := [(0x80, "ÇüéâäàåçêëèïîìÄÅÉæÆôöòûùÿÖÜ¢£¥₧ƒ"), (0xa0, "áíóúñÑªº¿⌐¬½¼¡«»░▒▓│┤╡╢╖╕╣║╗╝╜╛┐"),
      (0xc0, "└┴┬├─┼╞╟╚╔╩╦╠═╬╧╨╤╥╙╘╒╓╫╪┘┌█▄▌▐▀"), (0xe0, "αßΓπΣσµτΦΘΩδ∞φε∩≡±≥≤⌠⌡÷≈°∙·√ⁿ²■\u00a0")] },
  { name := "cp500"
    aliases := ["500", "csibm500", "ebcdic_cp_be", "ebcdic_cp_ch", "ibm500"]
    rows := [(0x04, "\u009c\x09\u0086\x7f\u0097\u008d\u008e"),
      (0x14, "\u009d\u0085\x08\u0087\x18\x19\u0092\u008f"),
      (0x20, "\u0080\u0081\u0082\u0083\u0084\x0a\x17\x1b\u0088\u0089\u008a\u008b\u008c\x05\x06"),
      (0x2f, "\x07\u0090\u0091\x16\u0093\u0094\u0095\u0096\x04\u0098\u0099\u009a\u009b\x14\x15"),
      (0x3e, "\u009e\x1a \u00a0âäàáãåçñ[.<(+!&éêëèíîïìß]$*)"),
      (0x5e, ";^-/ÂÄÀÁÃÅÇÑ¦,%_>?øÉÊËÈÍÎÏÌ\x60:#@'"), (0x7e, "=\x22Øabcdefghi«»ðýþ±°jklmnopqrªºæ¸"),
      (0x9e, "Æ¤µ~stuvwxyz¡¿ÐÝÞ®¢£¥·©§¶¼½¾¬|¯¨"),
      (0xbe, "´×\x7bABCDEFGHI\u00adôöòóõ\x7dJKLMNOPQR¹ûüù"),
      (0xde, "úÿ\x5c÷STUVWXYZ²ÔÖÒÓÕ0123456789³ÛÜÙ"), (0xfe, "Ú\u009f")] },
  { name := "cp720"
    rows := [(0x82, "éâ\u0084à\u0086çêëèïî"),
      (0x91, "\u0651\u0652ô¤\u0640ûù\u0621\u0622\u0623\u0624£\u0625\u0626\u0627\u0628\u0629"),
      (0xa2, "\u062a\u062b\u062c\u062d\u062e\u062f\u0630\u0631\u0632\u0633\u0634\u0635«»░▒▓│┤╡╢╖"),
      (0xb8, "╕╣║╗╝╜╛┐└┴┬├─┼╞╟╚╔╩╦╠═╬╧╨╤╥╙╘╒╓╫"),
      (0xd8, "╪┘┌█▄▌▐▀\u0636\u0637\u0638\u0639\u063a\u0641µ\u0642\u0643\u0644\u0645\u0646\u0647"),
      (0xed, "\u0648\u0649\u064a≡\u064b\u064c\u064d\u064e\u064f\u0650≈°∙·√ⁿ²■\u00a0")] },
  { name := "cp737"
    rows := [(0x80, "ΑΒΓΔΕΖΗΘΙΚΛΜΝΞΟΠΡΣΤΥΦΧΨΩαβγδεζηθ"), (0xa0, "ικλμνξοπρσςτυφχψ░▒▓│┤╡╢╖╕╣║╗╝╜╛┐"),
      (0xc0, "└┴┬├─┼╞╟╚╔╩╦╠═╬╧╨╤╥╙╘╒╓╫╪┘┌█▄▌▐▀"), (0xe0, "ωάέήϊίόύϋώΆΈΉΊΌΎΏ±≥≤ΪΫ÷≈°∙·√ⁿ²■\u00a0")] },
  { name := "cp775"
    aliases := ["775", "cspc775baltic", "ibm775"]
    rows := [(0x80, "ĆüéāäģåćłēŖŗīŹÄÅÉæÆōöĢ¢ŚśÖÜø£Ø×¤"), (0xa0, "ĀĪóŻżź”¦©®¬½¼Ł«»░▒▓│┤ĄČĘĖ╣║╗╝ĮŠ┐"),
      (0xc0, "└┴┬├─┼ŲŪ╚╔╩╦╠═╬Žąčęėįšųūž┘┌█▄▌▐▀"),
      (0xe0, "ÓßŌŃõÕµńĶķĻļņĒŅ’\u00ad±“¾¶§÷„°∙·¹³²■\u00a0")] },
  { name := "cp850"
    aliases := ["850", "cspc850multilingual", "ibm850"]
    rows := [(0x80, "ÇüéâäàåçêëèïîìÄÅÉæÆôöòûùÿÖÜø£Ø×ƒ"), (0xa0, "áíóúñÑªº¿®¬½¼¡«»░▒▓│┤ÁÂÀ©╣║╗╝¢¥┐"),
      (0xc0, "└┴┬├─┼ãÃ╚╔╩╦╠═╬¤ðÐÊËÈıÍÎÏ┘┌█▄¦Ì▀"),
      (0xe0, "ÓßÔÒõÕµþÞÚÛÙýÝ¯´\u00ad±‗¾¶§÷¸°¨·¹³²■\u00a0")] },
  { name := "cp852"
    aliases := ["852", "cspcp852", "ibm852"]
    rows := [(0x80, "ÇüéâäůćçłëŐőîŹÄĆÉĹĺôöĽľŚśÖÜŤťŁ×č"), (0xa0, "áíóúĄąŽžĘę¬źČş«»░▒▓│┤ÁÂĚŞ╣║╗╝Żż┐"),
      (0xc0, "└┴┬├─┼Ăă╚╔╩╦╠═╬¤đĐĎËďŇÍÎě┘┌█▄ŢŮ▀"),
      (0xe0, "ÓßÔŃńňŠšŔÚŕŰýÝţ´\u00ad˝˛ˇ˘§÷¸°¨˙űŘř■\u00a0")] },
  { name := "cp855"
    aliases := ["855", "csibm855", "ibm855"]
    rows := [(0x80, "ђЂѓЃёЁєЄѕЅіІїЇјЈљЉњЊћЋќЌўЎџЏюЮъЪ"), (0xa0, "аАбБцЦдДеЕфФгГ«»░▒▓│┤хХиИ╣║╗╝йЙ┐"),
      (0xc0, "└┴┬├─┼кК╚╔╩╦╠═╬¤лЛмМнНоОп┘┌█▄Пя▀"),
      (0xe0, "ЯрРсСтТуУжЖвВьЬ№\u00adыЫзЗшШэЭщЩчЧ§■\u00a0")] },
  { name := "cp856"
    rows := [
      (0x80, "\u05d0\u05d1\u05d2\u05d3\u05d4\u05d5\u05d6\u05d7\u05d8\u05d9\u05da\u05db\u05dc"),
      (0x8d, "\u05dd\u05de\u05df\u05e0\u05e1\u05e2\u05e3\u05e4\u05e5\u05e6\u05e7\u05e8\u05e9"),
      (0x9a, "\u05ea�£�×����������®¬½¼�«»░▒▓│┤���©╣"), (0xba, "║╗╝¢¥┐└┴┬├─┼��╚╔╩╦╠═╬¤���������┘"),
      (0xda, "┌█▄¦�▀������µ�������¯´\u00ad±‗¾¶§÷¸°¨"), (0xfa, "·¹³²■\u00a0")] },
  { name := "cp857"
    aliases := ["857", "csibm857", "ibm857"]
    rows := [(0x80, "ÇüéâäàåçêëèïîıÄÅÉæÆôöòûùİÖÜø£ØŞş"), (0xa0, "áíóúñÑĞğ¿®¬½¼¡«»░▒▓│┤ÁÂÀ©╣║╗╝¢¥┐"),
      (0xc0, "└┴┬├─┼ãÃ╚╔╩╦╠═╬¤ºªÊËÈ�ÍÎÏ┘┌█▄¦Ì▀"),
      (0xe0, "ÓßÔÒõÕµ�×ÚÛÙìÿ¯´\u00ad±�¾¶§÷¸°¨·¹³²■\u00a0")] },
  { name := "cp858"
    aliases := ["858", "csibm858", "ibm858"]
    rows := [(0x80, "ÇüéâäàåçêëèïîìÄÅÉæÆôöòûùÿÖÜø£Ø×ƒ"), (0xa0, "áíóúñÑªº¿®¬½¼¡«»░▒▓│┤ÁÂÀ©╣║╗╝¢¥┐"),
      (0xc0, "└┴┬├─┼ãÃ╚╔╩╦╠═╬¤ðÐÊËÈ€ÍÎÏ┘┌█▄¦Ì▀"),
      (0xe0, "ÓßÔÒõÕµþÞÚÛÙýÝ¯´\u00ad±‗¾¶§÷¸°¨·¹³²■\u00a0")] },
  { name := "cp860"
    aliases := ["860", "csibm860", "ibm860"]
    rows := [(0x80, "ÇüéâãàÁçêÊèÍÔìÃÂÉÀÈôõòÚùÌÕÜ¢£Ù₧Ó"), (0xa0, "áíóúñÑªº¿Ò¬½¼¡«»░▒▓│┤╡╢╖╕╣║╗╝╜╛┐"),
      (0xc0, "└┴┬├─┼╞╟╚╔╩╦╠═╬╧╨╤╥╙╘╒╓╫╪┘┌█▄▌▐▀"), (0xe0, "αßΓπΣσµτΦΘΩδ∞φε∩≡±≥≤⌠⌡÷≈°∙·√ⁿ²■\u00a0")] },
  { name := "cp861"
    aliases := ["861", "cp_is", "csibm861", "ibm861"]
    rows := [(0x80, "ÇüéâäàåçêëèÐðÞÄÅÉæÆôöþûÝýÖÜø£Ø₧ƒ"), (0xa0, "áíóúÁÍÓÚ¿⌐¬½¼¡«»░▒▓│┤╡╢╖╕╣║╗╝╜╛┐"),
      (0xc0, "└┴┬├─┼╞╟╚╔╩╦╠═╬╧╨╤╥╙╘╒╓╫╪┘┌█▄▌▐▀"), (0xe0, "αßΓπΣσµτΦΘΩδ∞φε∩≡±≥≤⌠⌡÷≈°∙·√ⁿ²■\u00a0")] },
  { name := "cp862"
    aliases := ["862", "cspc862latinhebrew", "ibm862"]
    rows := [
      (0x80, "\u05d0\u05d1\u05d2\u05d3\u05d4\u05d5\u05d6\u05d7\u05d8\u05d9\u05da\u05db\u05dc"),
      (0x8d, "\u05dd\u05de\u05df\u05e0\u05e1\u05e2\u05e3\u05e4\u05e5\u05e6\u05e7\u05e8\u05e9"),
      (0x9a, "\u05ea¢£¥₧ƒáíóúñÑªº¿⌐¬½¼¡«»░▒▓│┤╡╢╖╕╣"), (0xba, "║╗╝╜╛┐└┴┬├─┼╞╟╚╔╩╦╠═╬╧╨╤╥╙╘╒╓╫╪┘"),
      (0xda, "┌█▄▌▐▀αßΓπΣσµτΦΘΩδ∞φε∩≡±≥≤⌠⌡÷≈°∙"), (0xfa, "·√ⁿ²■\u00a0")] },
  { name := "cp863"
    aliases := ["863", "csibm863", "ibm863"]
    rows := [(0x80, "ÇüéâÂà¶çêëèïî‗À§ÉÈÊôËÏûù¤ÔÜ¢£ÙÛƒ"), (0xa0, "¦´óú¨¸³¯Î⌐¬½¼¾«»░▒▓│┤╡╢╖╕╣║╗╝╜╛┐"),
      (0xc0, "└┴┬├─┼╞╟╚╔╩╦╠═╬╧╨╤╥╙╘╒╓╫╪┘┌█▄▌▐▀"), (0xe0, "αßΓπΣσµτΦΘΩδ∞φε∩≡±≥≤⌠⌡÷≈°∙·√ⁿ²■\u00a0")] },
  { name := "cp864"
    aliases := ["864", "csibm864", "ibm864"]
    rows := [(0x25, "٪"), (0x80, "°·∙√▒─│┼┤┬├┴┐┌└┘β∞φ±½¼≈«»\ufef7\ufef8��\ufefb\ufefc�"),
      (0xa0, "\u00a0\u00ad\ufe82£¤\ufe84��\ufe8e\ufe8f\ufe95\ufe99،\ufe9d\ufea1\ufea5\u0660"),
      (0xb1, "\u0661\u0662\u0663\u0664\u0665\u0666\u0667\u0668\u0669\ufed1\u061b\ufeb1\ufeb5"),
      (0xbe, "\ufeb9\u061f¢\ufe80\ufe81\ufe83\ufe85\ufeca\ufe8b\ufe8d\ufe91\ufe93\ufe97\ufe9b"),
      (0xcc, "\ufe9f\ufea3\ufea7\ufea9\ufeab\ufead\ufeaf\ufeb3\ufeb7\ufebb\ufebf\ufec1\ufec5"),
      (0xd9, "\ufecb\ufecf¦¬÷×\ufec9\u0640\ufed3\ufed7\ufedb\ufedf\ufee3\ufee7\ufeeb\ufeed\ufeef"),
      (0xea, "\ufef3\ufebd\ufecc\ufece\ufecd\ufee1\ufe7d\u0651\ufee5\ufee9\ufeec\ufef0\ufef2"),
      (0xf7, "\ufed0\ufed5\ufef5\ufef6\ufedd\ufed9\ufef1■�")] },
  { name := "cp865"
    aliases := ["865", "csibm865", "ibm865"]
    rows := [(0x80, "ÇüéâäàåçêëèïîìÄÅÉæÆôöòûùÿÖÜø£Ø₧ƒ"), (0xa0, "áíóúñÑªº¿⌐¬½¼¡«¤░▒▓│┤╡╢╖╕╣║╗╝╜╛┐"),
      (0xc0, "└┴┬├─┼╞╟╚╔╩╦╠═╬╧╨╤╥╙╘╒╓╫╪┘┌█▄▌▐▀"), (0xe0, "αßΓπΣσµτΦΘΩδ∞φε∩≡±≥≤⌠⌡÷≈°∙·√ⁿ²■\u00a0")] },
  { name := "cp866"
    aliases := ["866", "csibm866", "ibm866"]
    rows := [(0x80, "АБВГДЕЖЗИЙКЛМНОПРСТУФХЦЧШЩЪЫЬЭЮЯ"), (0xa0, "абвгдежзийклмноп░▒▓│┤╡╢╖╕╣║╗╝╜╛┐"),
      (0xc0, "└┴┬├─┼╞╟╚╔╩╦╠═╬╧╨╤╥╙╘╒╓╫╪┘┌█▄▌▐▀"), (0xe0, "рстуфхцчшщъыьэюяЁёЄєЇїЎў°∙·√№¤■\u00a0")] },
  { name := "cp869"
    aliases := ["869", "cp_gr", "csibm869", "ibm869"]
    rows := [(0x80, "������Ά�·¬¦‘’Έ―ΉΊΪΌ��ΎΫ©Ώ²³ά£έήί"), (0xa0, "ϊΐόύΑΒΓΔΕΖΗ½ΘΙ«»░▒▓│┤ΚΛΜΝ╣║╗╝ΞΟ┐"),
      (0xc0, "└┴┬├─┼ΠΡ╚╔╩╦╠═╬ΣΤΥΦΧΨΩαβγ┘┌█▄δε▀"),
      (0xe0, "ζηθικλμνξοπρσςτ΄\u00ad±υφχ§ψ΅°¨ωϋΰώ■\u00a0")] },
  { name := "cp874"
    rows := [(0x80, "€����…�����������‘’“”•–—��������"),
      (0xa0, "\u00a0\u0e01\u0e02\u0e03\u0e04\u0e05\u0e06\u0e07\u0e08\u0e09\u0e0a\u0e0b\u0e0c"),
      (0xad, "\u0e0d\u0e0e\u0e0f\u0e10\u0e11\u0e12\u0e13\u0e14\u0e15\u0e16\u0e17\u0e18\u0e19"),
      (0xba, "\u0e1a\u0e1b\u0e1c\u0e1d\u0e1e\u0e1f\u0e20\u0e21\u0e22\u0e23\u0e24\u0e25\u0e26"),
      (0xc7, "\u0e27\u0e28\u0e29\u0e2a\u0e2b\u0e2c\u0e2d\u0e2e\u0e2f\u0e30\u0e31\u0e32\u0e33"),
      (0xd4, "\u0e34\u0e35\u0e36\u0e37\u0e38\u0e39\u0e3a����฿\u0e40\u0e41\u0e42\u0e43\u0e44"),
      (0xe5, "\u0e45ๆ\u0e47\u0e48\u0e49\u0e4a\u0e4b\u0e4c\u0e4d\u0e4e๏๐๑๒๓๔๕๖๗๘๙๚๛����")] },
  { name := "cp875"
    rows := [(0x04, "\u009c\x09\u0086\x7f\u0097\u008d\u008e"),
      (0x14, "\u009d\u0085\x08\u0087\x18\x19\u0092\u008f"),
      (0x20, "\u0080\u0081\u0082\u0083\u0084\x0a\x17\x1b\u0088\u0089\u008a\u008b\u008c\x05\x06"),
      (0x2f, "\x07\u0090\u0091\x16\u0093\u0094\u0095\u0096\x04\u0098\u0099\u009a\u009b\x14\x15"),
      (0x3e, "\u009e\x1a ΑΒΓΔΕΖΗΘΙ[.<(+!&ΚΛΜΝΞΟΠΡΣ]$*)"),
      (0x5e, ";^-/ΤΥΦΧΨΩΪΫ|,%_>?¨ΆΈΉ\u00a0ΊΌΎΏ\x60:#@'"),
      (0x7e, "=\x22΅abcdefghiαβγδεζ°jklmnopqrηθικ"), (0x9e, "λμ´~stuvwxyzνξοπρσ£άέήϊίόύϋώςτυφ"),
      (0xbe, "χψ\x7bABCDEFGHI\u00adωΐΰ‘―\x7dJKLMNOPQR±½\x1a·"),
      (0xde, "’¦\x5c\x1aSTUVWXYZ²§\x1a\x1a«¬0123456789³©\x1a\x1a"), (0xfe, "»\u009f")] },
  { name := "hp_roman8"
    aliases := ["cp1051", "ibm1051", "r8", "roman8"]
    rows := [(0xa1, "ÀÂÈÊËÎÏ´ˋˆ¨˜ÙÛ₤¯Ýý°ÇçÑñ¡¿¤£¥§ƒ¢â"), (0xc1, "êôûáéóúàèòùäëöüÅîØÆåíøæÄìÖÜÉïßÔÁ"),
      (0xe1, "ÃãÐðÍÌÓÒÕõŠšÚŸÿÞþ·µ¶¾—¼½ªº«■»±�")] },
  { name := "iso8859_10"
    aliases := ["csisolatin6", "iso_8859_10", "iso_8859_10_1992", "iso_ir_157", "l6", "latin6"]
    rows := [(0xa1, "ĄĒĢĪĨĶ§ĻĐŠŦŽ\u00adŪŊ°ąēģīĩķ·ļđšŧž―ūŋĀ"), (0xc7, "ĮČÉĘËĖ"), (0xd1, "ŅŌ"),
      (0xd7, "ŨØŲ"), (0xe0, "ā"), (0xe7, "įčéęëė"), (0xf1, "ņō"), (0xf7, "ũøų"), (0xff, "ĸ")] },
  { name := "iso8859_11"
    aliases := ["iso_8859_11", "iso_8859_11_2001", "thai"]
    rows := [
      (0xa1, "\u0e01\u0e02\u0e03\u0e04\u0e05\u0e06\u0e07\u0e08\u0e09\u0e0a\u0e0b\u0e0c\u0e0d"),
      (0xae, "\u0e0e\u0e0f\u0e10\u0e11\u0e12\u0e13\u0e14\u0e15\u0e16\u0e17\u0e18\u0e19\u0e1a"),
      (0xbb, "\u0e1b\u0e1c\u0e1d\u0e1e\u0e1f\u0e20\u0e21\u0e22\u0e23\u0e24\u0e25\u0e26\u0e27"),
      (0xc8, "\u0e28\u0e29\u0e2a\u0e2b\u0e2c\u0e2d\u0e2e\u0e2f\u0e30\u0e31\u0e32\u0e33\u0e34"),
      (0xd5, "\u0e35\u0e36\u0e37\u0e38\u0e39\u0e3a����฿\u0e40\u0e41\u0e42\u0e43\u0e44\u0e45ๆ"),
      (0xe7, "\u0e47\u0e48\u0e49\u0e4a\u0e4b\u0e4c\u0e4d\u0e4e๏๐๑๒๓๔๕๖๗๘๙๚๛����")] },
  { name := "iso8859_13"
    aliases := ["iso_8859_13", "l7", "latin7"]
    rows := [(0xa1, "”"), (0xa5, "„¦§Ø©Ŗ"), (0xaf, "Æ"), (0xb4, "“"), (0xb8, "ø¹ŗ"),
      (0xbf, "æĄĮĀĆÄÅĘĒČÉŹĖĢĶĪĻŠŃŅÓŌ"), (0xd8, "ŲŁŚŪÜŻŽßąįāćäåęēčéźėģķīļšńņóō"), (0xf8, "ųłśūüżž’")] },
  { name := "iso8859_14"
    aliases := ["iso_8859_14", "iso_8859_14_1998", "iso_celtic", "iso_ir_199", "l8", "latin8"]
    rows := [(0xa1, "Ḃḃ£ĊċḊ§Ẁ©ẂḋỲ\u00ad®ŸḞḟĠġṀṁ¶ṖẁṗẃṠỳẄẅṡ"), (0xd0, "Ŵ"), (0xd7, "Ṫ"), (0xde, "Ŷ"),
      (0xf0, "ŵ"), (0xf7, "ṫ"), (0xfe, "ŷ")] },
  { name := "iso8859_15"
    aliases := ["iso_8859_15", "l9", "latin9"]
    rows := [(0xa4, "€¥Š§š"), (0xb4, "Ž"), (0xb8, "ž"), (0xbc, "ŒœŸ")] },
  { name := "iso8859_16"
    aliases := ["iso_8859_16", "iso_8859_16_2001", "iso_ir_226", "l10", "latin10"]
    rows := [(0xa1, "ĄąŁ€„Š§š©Ș«Ź\u00adźŻ°±ČłŽ”¶·žčș»ŒœŸż"), (0xc3, "ĂÄĆ"), (0xd0, "ĐŃ"),
      (0xd5, "ŐÖŚŰ"), (0xdd, "ĘȚ"), (0xe3, "ăäć"), (0xf0, "đń"), (0xf5, "őöśű"), (0xfd, "ęț")] },
  { name := "iso8859_2"
    aliases := ["csisolatin2", "iso_8859_2", "iso_8859_2_1987", "iso_ir_101", "l2", "latin2"]
    rows := [(0xa1, "Ą˘Ł¤ĽŚ§¨ŠŞŤŹ\u00adŽŻ°ą˛ł´ľśˇ¸šşťź˝žżŔ"),
      (0xc1, "ÁÂĂÄĹĆÇČÉĘËĚÍÎĎĐŃŇÓÔŐÖ×ŘŮÚŰÜÝŢßŕ"), (0xe1, "áâăäĺćçčéęëěíîďđńňóôőö÷řůúűüýţ˙")] },
  { name := "iso8859_3"
    aliases := ["csisolatin3", "iso_8859_3", "iso_8859_3_1988", "iso_ir_109", "l3", "latin3"]
    rows := [(0xa1, "Ħ˘£¤�Ĥ§¨İŞĞĴ\u00ad�Ż°ħ"), (0xb6, "ĥ·¸ışğĵ½�ż"), (0xc3, "�ÄĊĈ"), (0xd0, "�"),
      (0xd5, "ĠÖ×Ĝ"), (0xdd, "ŬŜ"), (0xe3, "�äċĉ"), (0xf0, "�"), (0xf5, "ġö÷ĝ"), (0xfd, "ŭŝ˙")] },
  { name := "iso8859_4"
    aliases := ["csisolatin4", "iso_8859_4", "iso_8859_4_1988", "iso_ir_110", "l4", "latin4"]
    rows := [(0xa1, "ĄĸŖ¤ĨĻ§¨ŠĒĢŦ\u00adŽ¯°ą˛ŗ´ĩļˇ¸šēģŧŊžŋĀ"), (0xc7, "ĮČÉĘËĖÍÎĪĐŅŌĶ"), (0xd9, "Ų"),
      (0xdd, "ŨŪßā"), (0xe7, "įčéęëėíîīđņōķ"), (0xf9, "ų"), (0xfd, "ũū˙")] },
  { name := "iso8859_5"
    aliases := ["csisolatincyrillic", "cyrillic", "iso_8859_5", "iso_8859_5_1988", "iso_ir_144"]
    rows := [(0xa1, "ЁЂЃЄЅІЇЈЉЊЋЌ\u00adЎЏАБВГДЕЖЗИЙКЛМНОПР"),
      (0xc1, "СТУФХЦЧШЩЪЫЬЭЮЯабвгдежзийклмнопр"), (0xe1, "стуфхцчшщъыьэюя№ёђѓєѕіїјљњћќ§ўџ")] },
  { name := "iso8859_6"
    aliases := ["arabic", "asmo_708", "csisolatinarabic", "ecma_114", "iso_8859_6",
        "iso_8859_6_1987", "iso_ir_127"]
    rows := [(0xa1, "���¤�������،\u00ad�������������\u061b���\u061f�"),
      (0xc1, "\u0621\u0622\u0623\u0624\u0625\u0626\u0627\u0628\u0629\u062a\u062b\u062c\u062d"),
      (0xce, "\u062e\u062f\u0630\u0631\u0632\u0633\u0634\u0635\u0636\u0637\u0638\u0639\u063a����"),
      (0xdf, "�\u0640\u0641\u0642\u0643\u0644\u0645\u0646\u0647\u0648\u0649\u064a\u064b\u064c"),
      (0xed, "\u064d\u064e\u064f\u0650\u0651\u0652�������������")] },
  { name := "iso8859_7"
    aliases := ["csisolatingreek", "ecma_118", "elot_928", "greek", "greek8", "iso_8859_7",
        "iso_8859_7_1987", "iso_ir_126"]
    rows := [(0xa1, "‘’£€₯"), (0xaa, "ͺ"), (0xae, "�―"), (0xb4, "΄΅Ά·ΈΉΊ»Ό½ΎΏΐΑΒΓΔΕΖΗΘΙΚΛΜΝΞΟΠΡ�Σ"),
      (0xd4, "ΤΥΦΧΨΩΪΫάέήίΰαβγδεζηθικλμνξοπρςσ"), (0xf4, "τυφχψωϊϋόύώ�")] },
  { name := "iso8859_8"
    aliases := ["csisolatinhebrew", "hebrew", "iso_8859_8", "iso_8859_8_1988", "iso_ir_138"]
    rows := [(0xa1, "�"), (0xaa, "×"), (0xba, "÷"), (0xbf, "��������������������������������"),
      (0xdf, "‗\u05d0\u05d1\u05d2\u05d3\u05d4\u05d5\u05d6\u05d7\u05d8\u05d9\u05da\u05db\u05dc"),
      (0xed, "\u05dd\u05de\u05df\u05e0\u05e1\u05e2\u05e3\u05e4\u05e5\u05e6\u05e7\u05e8\u05e9"),
      (0xfa, "\u05ea��\u200e\u200f�")] },
  { name := "iso8859_9"
    aliases := ["csisolatin5", "iso_8859_9", "iso_8859_9_1989", "iso_ir_148", "l5", "latin5"]
    rows := [(0xd0, "Ğ"), (0xdd, "İŞ"), (0xf0, "ğ"), (0xfd, "ış")] },
  { name := "koi8_r"
    aliases := ["cskoi8r"]
    rows := [(0x80, "─│┌┐└┘├┤┬┴┼▀▄█▌▐░▒▓⌠■∙√≈≤≥\u00a0⌡°²·÷"),
      (0xa0, "═║╒ё╓╔╕╖╗╘╙╚╛╜╝╞╟╠╡Ё╢╣╤╥╦╧╨╩╪╫╬©"), (0xc0, "юабцдефгхийклмнопярстужвьызшэщчъ"),
      (0xe0, "ЮАБЦДЕФГХИЙКЛМНОПЯРСТУЖВЬЫЗШЭЩЧЪ")] },
  { name := "koi8_t"
    rows := [(0x80, "қғ‚Ғ„…†‡�‰ҳ‹ҲҷҶ�Қ‘’“”•–—�™�›����"), (0xa0, "�ӯӮё¤ӣ¦§���"), (0xaf, "�"),
      (0xb3, "Ё�Ӣ¶·�№�»���©юабцдефгхийклмнопяр"), (0xd3, "стужвьызшэщчъЮАБЦДЕФГХИЙКЛМНОПЯР"),
      (0xf3, "СТУЖВЬЫЗШЭЩЧЪ")] },
  { name := "koi8_u"
    rows := [(0x80, "─│┌┐└┘├┤┬┴┼▀▄█▌▐░▒▓⌠■∙√≈≤≥\u00a0⌡°²·÷"),
      (0xa0, "═║╒ёє╔ії╗╘╙╚╛ґ╝╞╟╠╡ЁЄ╣ІЇ╦╧╨╩╪Ґ╬©"), (0xc0, "юабцдефгхийклмнопярстужвьызшэщчъ"),
      (0xe0, "ЮАБЦДЕФГХИЙКЛМНОПЯРСТУЖВЬЫЗШЭЩЧЪ")] },
  { name := "kz1048"
    aliases := ["kz_1048", "rk1048", "strk1048_2002"]
    rows := [(0x80, "ЂЃ‚ѓ„…†‡€‰Љ‹ЊҚҺЏђ‘’“”•–—�™љ›њқһџ"), (0xa0, "\u00a0ҰұӘ¤Ө¦§Ё©Ғ"),
      (0xaf, "Ү°±Ііө"), (0xb8, "ё№ғ»әҢңүАБВГДЕЖЗИЙКЛМНОПРСТУФХЦЧ"),
      (0xd8, "ШЩЪЫЬЭЮЯабвгдежзийклмнопрстуфхцч"), (0xf8, "шщъыьэюя")] },
  { name := "latin_1"
    aliases := ["8859", "cp819", "csisolatin1", "ibm819", "iso8859", "iso8859_1", "iso_8859_1",
        "iso_8859_1_1987", "iso_ir_100", "l1", "latin", "latin1"] },
  { name := "mac_arabic"
    rows := [(0x80, "Ä\u00a0ÇÉÑÖÜáàâä\u06ba«çéèêëí…îïñó»ôö÷úùûü"),
      (0xa0, " !\x22#$٪&'()*+،-./\u0660\u0661\u0662\u0663\u0664\u0665\u0666\u0667\u0668\u0669:"),
      (0xbb, "\u061b<=>\u061f❊\u0621\u0622\u0623\u0624\u0625\u0626\u0627\u0628\u0629\u062a\u062b"),
      (0xcc, "\u062c\u062d\u062e\u062f\u0630\u0631\u0632\u0633\u0634\u0635\u0636\u0637\u0638"),
      (0xd9, "\u0639\u063a[\x5c]^_\u0640\u0641\u0642\u0643\u0644\u0645\u0646\u0647\u0648\u0649"),
      (0xea, "\u064a\u064b\u064c\u064d\u064e\u064f\u0650\u0651\u0652\u067e\u0679\u0686\u06d5"),
      (0xf7, "\u06a4\u06af\u0688\u0691\x7b|\x7d\u0698\u06d2")] },
  { name := "mac_croatian"
    rows := [(0x80, "ÄÅÇÉÑÖÜáàâäãåçéèêëíìîïñóòôöõúùûü"), (0xa0, "†°¢£§•¶ß®Š™´¨≠ŽØ∞±≤≥∆µ∂∑∏š∫ªºΩžø"),
      (0xc0, "¿¡¬√ƒ≈Ć«Č…\u00a0ÀÃÕŒœĐ—“”‘’÷◊\uf8ff©⁄€‹›Æ»"),
      (0xe0, "–·‚„‰ÂćÁčÈÍÎÏÌÓÔđÒÚÛÙıˆ˜¯πË˚¸Êæˇ")] },
  { name := "mac_cyrillic"
    aliases := ["maccyrillic"]
    rows := [(0x80, "АБВГДЕЖЗИЙКЛМНОПРСТУФХЦЧШЩЪЫЬЭЮЯ"), (0xa0, "†°Ґ£§•¶І®©™Ђђ≠Ѓѓ∞±≤≥іµґЈЄєЇїЉљЊњ"),
      (0xc0, "јЅ¬√ƒ≈∆«»…\u00a0ЋћЌќѕ–—“”‘’÷„ЎўЏџ№Ёёя"), (0xe0, "абвгдежзийклмнопрстуфхцчшщъыьэю€")] },
  { name := "mac_farsi"
    rows := [(0x80, "Ä\u00a0ÇÉÑÖÜáàâä\u06ba«çéèêëí…îïñó»ôö÷úùûü"),
      (0xa0, " !\x22#$٪&'()*+،-./۰۱۲۳۴۵۶۷۸۹:\u061b<=>\u061f"),
      (0xc0, "❊\u0621\u0622\u0623\u0624\u0625\u0626\u0627\u0628\u0629\u062a\u062b\u062c\u062d"),
      (0xce, "\u062e\u062f\u0630\u0631\u0632\u0633\u0634\u0635\u0636\u0637\u0638\u0639\u063a["),
      (0xdc, "\x5c]^_\u0640\u0641\u0642\u0643\u0644\u0645\u0646\u0647\u0648\u0649\u064a\u064b"),
      (0xec, "\u064c\u064d\u064e\u064f\u0650\u0651\u0652\u067e\u0679\u0686\u06d5\u06a4\u06af"),
      (0xf9, "\u0688\u0691\x7b|\x7d\u0698\u06d2")] },
  { name := "mac_greek"
    aliases := ["macgreek"]
    rows := [(0x80, "Ä¹²É³ÖÜ΅àâä΄¨çéèêë£™îï•½‰ôö¦€ùûü"), (0xa0, "†ΓΔΘΛΞΠß®©ΣΪ§≠°·Α±≤≥¥ΒΕΖΗΙΚΜΦΫΨΩ"),
      (0xc0, "άΝ¬ΟΡ≈Τ«»…\u00a0ΥΧΆΈœ–―“”‘’÷ΉΊΌΎέήίόΏ"),
      (0xe0, "ύαβψδεφγηιξκλμνοπώρστθωςχυζϊϋΐΰ\u00ad")] },
  { name := "mac_iceland"
    aliases := ["maciceland"]
    rows := [(0x80, "ÄÅÇÉÑÖÜáàâäãåçéèêëíìîïñóòôöõúùûü"), (0xa0, "Ý°¢£§•¶ß®©™´¨≠ÆØ∞±≤≥¥µ∂∑∏π∫ªºΩæø"),
      (0xc0, "¿¡¬√ƒ≈∆«»…\u00a0ÀÃÕŒœ–—“”‘’÷◊ÿŸ⁄€ÐðÞþ"),
      (0xe0, "ý·‚„‰ÂÊÁËÈÍÎÏÌÓÔ\uf8ffÒÚÛÙıˆ˜¯˘˙˚¸˝˛ˇ")] },
  { name := "mac_latin2"
    aliases := ["mac_centeuro", "maccentraleurope", "maclatin2"]
    rows := [(0x80, "ÄĀāÉĄÖÜáąČäčĆćéŹźĎíďĒēĖóėôöõúĚěü"), (0xa0, "†°Ę£§•¶ß®©™ę¨≠ģĮįĪ≤≥īĶ∂∑łĻļĽľĹĺŅ"),
      (0xc0, "ņŃ¬√ńŇ∆«»…\u00a0ňŐÕőŌ–—“”‘’÷◊ōŔŕŘ‹›řŖ"), (0xe0, "ŗŠ‚„šŚśÁŤťÍŽžŪÓÔūŮÚůŰűŲųÝýķŻŁżĢˇ")] },
  { name := "mac_roman"
    aliases := ["macintosh", "macroman"]
    rows := [(0x80, "ÄÅÇÉÑÖÜáàâäãåçéèêëíìîïñóòôöõúùûü"), (0xa0, "†°¢£§•¶ß®©™´¨≠ÆØ∞±≤≥¥µ∂∑∏π∫ªºΩæø"),
      (0xc0, "¿¡¬√ƒ≈∆«»…\u00a0ÀÃÕŒœ–—“”‘’÷◊ÿŸ⁄€‹›ﬁﬂ"),
      (0xe0, "‡·‚„‰ÂÊÁËÈÍÎÏÌÓÔ\uf8ffÒÚÛÙıˆ˜¯˘˙˚¸˝˛ˇ")] },
  { name := "mac_romanian"
    rows := [(0x80, "ÄÅÇÉÑÖÜáàâäãåçéèêëíìîïñóòôöõúùûü"), (0xa0, "†°¢£§•¶ß®©™´¨≠ĂȘ∞±≤≥¥µ∂∑∏π∫ªºΩăș"),
      (0xc0, "¿¡¬√ƒ≈∆«»…\u00a0ÀÃÕŒœ–—“”‘’÷◊ÿŸ⁄€‹›Țț"),
      (0xe0, "‡·‚„‰ÂÊÁËÈÍÎÏÌÓÔ\uf8ffÒÚÛÙıˆ˜¯˘˙˚¸˝˛ˇ")] },
  { name := "mac_turkish"
    aliases := ["macturkish"]
    rows := [(0x80, "ÄÅÇÉÑÖÜáàâäãåçéèêëíìîïñóòôöõúùûü"), (0xa0, "†°¢£§•¶ß®©™´¨≠ÆØ∞±≤≥¥µ∂∑∏π∫ªºΩæø"),
      (0xc0, "¿¡¬√ƒ≈∆«»…\u00a0ÀÃÕŒœ–—“”‘’÷◊ÿŸĞğİıŞş"),
      (0xe0, "‡·‚„‰ÂÊÁËÈÍÎÏÌÓÔ\uf8ffÒÚÛÙ\uf8a0ˆ˜¯˘˙˚¸˝˛ˇ")] },
  { name := "palmos"
    rows := [(0x80, "€\u0081‚ƒ„…†‡ˆ‰Š‹Œ♦♣♥♠‘’“”•–—˜™š\u009bœ\u009d\u009eŸ")] },
  { name := "ptcp154"
    aliases := ["cp154", "csptcp154", "cyrillic_asian", "pt154"]
    rows := [(0x80, "ҖҒӮғ„…ҶҮҲүҠӢҢҚҺҸҗ‘’“”•–—ҳҷҡӣңқһҹ"),
      (0xa0, "\u00a0ЎўЈӨҘҰ§Ё©Ә«¬ӯ®Ҝ°ұІіҙө¶·ё№ә»јҪҫҝ"), (0xc0, "АБВГДЕЖЗИЙКЛМНОПРСТУФХЦЧШЩЪЫЬЭЮЯ"),
      (0xe0, "абвгдежзийклмнопрстуфхцчшщъыьэюя")] },
  { name := "tis_620"
    aliases := ["iso_ir_166", "tis620", "tis_620_0", "tis_620_2529_0", "tis_620_2529_1"]
    rows := [
      (0xa0, "�\u0e01\u0e02\u0e03\u0e04\u0e05\u0e06\u0e07\u0e08\u0e09\u0e0a\u0e0b\u0e0c\u0e0d"),
      (0xae, "\u0e0e\u0e0f\u0e10\u0e11\u0e12\u0e13\u0e14\u0e15\u0e16\u0e17\u0e18\u0e19\u0e1a"),
      (0xbb, "\u0e1b\u0e1c\u0e1d\u0e1e\u0e1f\u0e20\u0e21\u0e22\u0e23\u0e24\u0e25\u0e26\u0e27"),
      (0xc8, "\u0e28\u0e29\u0e2a\u0e2b\u0e2c\u0e2d\u0e2e\u0e2f\u0e30\u0e31\u0e32\u0e33\u0e34"),
      (0xd5, "\u0e35\u0e36\u0e37\u0e38\u0e39\u0e3a����฿\u0e40\u0e41\u0e42\u0e43\u0e44\u0e45ๆ"),
      (0xe7, "\u0e47\u0e48\u0e49\u0e4a\u0e4b\u0e4c\u0e4d\u0e4e๏๐๑๒๓๔๕๖๗๘๙๚๛����")] }]

end CodePage

end RateIsolation
