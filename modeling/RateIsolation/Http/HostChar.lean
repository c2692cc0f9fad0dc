/-
  The characters of host names (IDNA 2008 over Unicode 14).

  * `isAdmitted`: the characters that a label may hold anywhere;
  * `combiningClass`, `compositions`: the order of marks, and which characters
    are written as one; only those of characters that a label may hold;
  * `Direction` is the direction of writing of a character that a label may
    hold;
  * `joinsNext`, `joinsPrevious` and `isTransparent` tell how such characters
    join, `greek`, `hebrew` and `eastAsian` to which script they belong.
-/
import RateIsolation.Text.Mark

namespace RateIsolation.HostChar

open Text (inRanges isNonspacing)

/-- The characters that a label may hold anywhere: first, last and step of each run. -/
def admitted : Array (Nat × Nat × Nat) := #[
  (45, 45, 1), (48, 57, 1), (97, 122, 1), (223, 246, 1), (248, 255, 1), (257, 305, 2),
  (309, 309, 1), (311, 312, 1), (314, 318, 2), (322, 328, 2), (331, 375, 2), (378, 384, 2),
  (387, 387, 1), (389, 389, 1), (392, 392, 1), (396, 397, 1), (402, 402, 1), (405, 405, 1),
  (409, 411, 1), (414, 414, 1), (417, 421, 2), (424, 424, 1), (426, 427, 1), (429, 429, 1),
  (432, 432, 1), (436, 436, 1), (438, 438, 1), (441, 443, 1), (445, 451, 1), (462, 474, 2),
  (476, 477, 1), (479, 493, 2), (495, 496, 1), (501, 501, 1), (505, 561, 2), (563, 569, 1),
  (572, 572, 1), (575, 576, 1), (578, 578, 1), (583, 589, 2), (591, 687, 1), (697, 705, 1),
  (710, 721, 1), (748, 748, 1), (750, 750, 1), (768, 831, 1), (834, 834, 1), (838, 846, 1),
  (848, 879, 1), (881, 881, 1), (883, 883, 1), (887, 887, 1), (891, 893, 1), (912, 912, 1),
  (940, 974, 1), (983, 1007, 2), (1011, 1011, 1), (1016, 1016, 1), (1019, 1020, 1), (1072, 1119, 1),
  (1121, 1153, 2), (1155, 1159, 1), (1163, 1215, 2), (1218, 1228, 2), (1230, 1231, 1),
  (1233, 1327, 2), (1369, 1369, 1), (1376, 1414, 1), (1416, 1416, 1), (1425, 1469, 1),
  (1471, 1471, 1), (1473, 1474, 1), (1476, 1477, 1), (1479, 1479, 1), (1488, 1514, 1),
  (1519, 1522, 1), (1552, 1562, 1), (1568, 1599, 1), (1601, 1631, 1), (1646, 1652, 1),
  (1657, 1747, 1), (1749, 1756, 1), (1759, 1768, 1), (1770, 1775, 1), (1786, 1791, 1),
  (1808, 1866, 1), (1869, 1969, 1), (1984, 2037, 1), (2045, 2045, 1), (2048, 2093, 1),
  (2112, 2139, 1), (2144, 2154, 1), (2160, 2183, 1), (2185, 2190, 1), (2200, 2273, 1),
  (2275, 2391, 1), (2400, 2403, 1), (2406, 2415, 1), (2417, 2435, 1), (2437, 2444, 1),
  (2447, 2448, 1), (2451, 2472, 1), (2474, 2480, 1), (2482, 2482, 1), (2486, 2489, 1),
  (2492, 2500, 1), (2503, 2504, 1), (2507, 2510, 1), (2519, 2519, 1), (2528, 2531, 1),
  (2534, 2545, 1), (2556, 2556, 1), (2558, 2558, 1), (2561, 2563, 1), (2565, 2570, 1),
  (2575, 2576, 1), (2579, 2600, 1), (2602, 2608, 1), (2610, 2610, 1), (2613, 2613, 1),
  (2616, 2617, 1), (2620, 2620, 1), (2622, 2626, 1), (2631, 2632, 1), (2635, 2637, 1),
  (2641, 2641, 1), (2652, 2652, 1), (2662, 2677, 1), (2689, 2691, 1), (2693, 2701, 1),
  (2703, 2705, 1), (2707, 2728, 1), (2730, 2736, 1), (2738, 2739, 1), (2741, 2745, 1),
  (2748, 2757, 1), (2759, 2761, 1), (2763, 2765, 1), (2768, 2768, 1), (2784, 2787, 1),
  (2790, 2799, 1), (2809, 2815, 1), (2817, 2819, 1), (2821, 2828, 1), (2831, 2832, 1),
  (2835, 2856, 1), (2858, 2864, 1), (2866, 2867, 1), (2869, 2873, 1), (2876, 2884, 1),
  (2887, 2888, 1), (2891, 2893, 1), (2901, 2903, 1), (2911, 2915, 1), (2918, 2927, 1),
  (2929, 2929, 1), (2946, 2947, 1), (2949, 2954, 1), (2958, 2960, 1), (2962, 2965, 1),
  (2969, 2970, 1), (2972, 2972, 1), (2974, 2975, 1), (2979, 2980, 1), (2984, 2986, 1),
  (2990, 3001, 1), (3006, 3010, 1), (3014, 3016, 1), (3018, 3021, 1), (3024, 3024, 1),
  (3031, 3031, 1), (3046, 3055, 1), (3072, 3084, 1), (3086, 3088, 1), (3090, 3112, 1),
  (3114, 3129, 1), (3132, 3140, 1), (3142, 3144, 1), (3146, 3149, 1), (3157, 3158, 1),
  (3160, 3162, 1), (3165, 3165, 1), (3168, 3171, 1), (3174, 3183, 1), (3200, 3203, 1),
  (3205, 3212, 1), (3214, 3216, 1), (3218, 3240, 1), (3242, 3251, 1), (3253, 3257, 1),
  (3260, 3268, 1), (3270, 3272, 1), (3274, 3277, 1), (3285, 3286, 1), (3293, 3294, 1),
  (3296, 3299, 1), (3302, 3311, 1), (3313, 3314, 1), (3328, 3340, 1), (3342, 3344, 1),
  (3346, 3396, 1), (3398, 3400, 1), (3402, 3406, 1), (3412, 3415, 1), (3423, 3427, 1),
  (3430, 3439, 1), (3450, 3455, 1), (3457, 3459, 1), (3461, 3478, 1), (3482, 3505, 1),
  (3507, 3515, 1), (3517, 3517, 1), (3520, 3526, 1), (3530, 3530, 1), (3535, 3540, 1),
  (3542, 3542, 1), (3544, 3551, 1), (3558, 3567, 1), (3570, 3571, 1), (3585, 3634, 1),
  (3636, 3642, 1), (3648, 3662, 1), (3664, 3673, 1), (3713, 3714, 1), (3716, 3716, 1),
  (3718, 3722, 1), (3724, 3747, 1), (3749, 3749, 1), (3751, 3762, 1), (3764, 3773, 1),
  (3776, 3780, 1), (3782, 3782, 1), (3784, 3789, 1), (3792, 3801, 1), (3806, 3807, 1),
  (3840, 3840, 1), (3851, 3851, 1), (3864, 3865, 1), (3872, 3881, 1), (3893, 3897, 2),
  (3902, 3906, 1), (3908, 3911, 1), (3913, 3916, 1), (3918, 3921, 1), (3923, 3926, 1),
  (3928, 3931, 1), (3933, 3944, 1), (3946, 3948, 1), (3953, 3954, 1), (3956, 3956, 1),
  (3962, 3968, 1), (3970, 3972, 1), (3974, 3986, 1), (3988, 3991, 1), (3993, 3996, 1),
  (3998, 4001, 1), (4003, 4006, 1), (4008, 4011, 1), (4013, 4024, 1), (4026, 4028, 1),
  (4038, 4038, 1), (4096, 4169, 1), (4176, 4253, 1), (4304, 4346, 1), (4349, 4351, 1),
  (4608, 4680, 1), (4682, 4685, 1), (4688, 4694, 1), (4696, 4696, 1), (4698, 4701, 1),
  (4704, 4744, 1), (4746, 4749, 1), (4752, 4784, 1), (4786, 4789, 1), (4792, 4798, 1),
  (4800, 4800, 1), (4802, 4805, 1), (4808, 4822, 1), (4824, 4880, 1), (4882, 4885, 1),
  (4888, 4954, 1), (4957, 4959, 1), (4992, 5007, 1), (5024, 5109, 1), (5121, 5740, 1),
  (5743, 5759, 1), (5761, 5786, 1), (5792, 5866, 1), (5873, 5880, 1), (5888, 5909, 1),
  (5919, 5940, 1), (5952, 5971, 1), (5984, 5996, 1), (5998, 6000, 1), (6002, 6003, 1),
  (6016, 6067, 1), (6070, 6099, 1), (6103, 6103, 1), (6108, 6109, 1), (6112, 6121, 1),
  (6160, 6169, 1), (6176, 6264, 1), (6272, 6314, 1), (6320, 6389, 1), (6400, 6430, 1),
  (6432, 6443, 1), (6448, 6459, 1), (6470, 6509, 1), (6512, 6516, 1), (6528, 6571, 1),
  (6576, 6601, 1), (6608, 6617, 1), (6656, 6683, 1), (6688, 6750, 1), (6752, 6780, 1),
  (6783, 6793, 1), (6800, 6809, 1), (6823, 6823, 1), (6832, 6845, 1), (6847, 6862, 1),
  (6912, 6988, 1), (6992, 7001, 1), (7019, 7027, 1), (7040, 7155, 1), (7168, 7223, 1),
  (7232, 7241, 1), (7245, 7293, 1), (7376, 7378, 1), (7380, 7418, 1), (7424, 7467, 1),
  (7471, 7471, 1), (7483, 7483, 1), (7502, 7502, 1), (7531, 7543, 1), (7545, 7578, 1),
  (7616, 7679, 1), (7681, 7827, 2), (7829, 7833, 1), (7836, 7837, 1), (7839, 7933, 2),
  (7935, 7943, 1), (7952, 7957, 1), (7968, 7975, 1), (7984, 7991, 1), (8000, 8005, 1),
  (8016, 8023, 1), (8032, 8039, 1), (8048, 8060, 2), (8112, 8113, 1), (8118, 8118, 1),
  (8134, 8134, 1), (8144, 8146, 1), (8150, 8151, 1), (8160, 8162, 1), (8164, 8167, 1),
  (8182, 8182, 1), (8526, 8526, 1), (8580, 8580, 1), (11312, 11359, 1), (11361, 11361, 1),
  (11365, 11366, 1), (11368, 11372, 2), (11377, 11377, 1), (11379, 11380, 1), (11382, 11387, 1),
  (11393, 11489, 2), (11491, 11492, 1), (11500, 11500, 1), (11502, 11505, 1), (11507, 11507, 1),
  (11520, 11557, 1), (11559, 11559, 1), (11565, 11565, 1), (11568, 11623, 1), (11647, 11670, 1),
  (11680, 11686, 1), (11688, 11694, 1), (11696, 11702, 1), (11704, 11710, 1), (11712, 11718, 1),
  (11720, 11726, 1), (11728, 11734, 1), (11736, 11742, 1), (11744, 11775, 1), (11823, 11823, 1),
  (12293, 12295, 1), (12330, 12333, 1), (12348, 12348, 1), (12353, 12438, 1), (12441, 12442, 1),
  (12445, 12446, 1), (12449, 12538, 1), (12540, 12542, 1), (12549, 12591, 1), (12704, 12735, 1),
  (12784, 12799, 1), (13312, 19903, 1), (19968, 42124, 1), (42192, 42237, 1), (42240, 42508, 1),
  (42512, 42539, 1), (42561, 42603, 2), (42605, 42607, 1), (42612, 42621, 1), (42623, 42651, 2),
  (42654, 42725, 1), (42736, 42737, 1), (42775, 42783, 1), (42787, 42797, 2), (42799, 42801, 1),
  (42803, 42863, 2), (42865, 42872, 1), (42874, 42874, 1), (42876, 42876, 1), (42879, 42885, 2),
  (42887, 42888, 1), (42892, 42892, 1), (42894, 42895, 1), (42897, 42897, 1), (42899, 42901, 1),
  (42903, 42921, 2), (42927, 42927, 1), (42933, 42947, 2), (42952, 42952, 1), (42954, 42954, 1),
  (42961, 42969, 2), (42998, 42999, 1), (43002, 43047, 1), (43052, 43052, 1), (43072, 43123, 1),
  (43136, 43205, 1), (43216, 43225, 1), (43232, 43255, 1), (43259, 43259, 1), (43261, 43309, 1),
  (43312, 43347, 1), (43392, 43456, 1), (43471, 43481, 1), (43488, 43518, 1), (43520, 43574, 1),
  (43584, 43597, 1), (43600, 43609, 1), (43616, 43638, 1), (43642, 43714, 1), (43739, 43741, 1),
  (43744, 43759, 1), (43762, 43766, 1), (43777, 43782, 1), (43785, 43790, 1), (43793, 43798, 1),
  (43808, 43814, 1), (43816, 43822, 1), (43824, 43866, 1), (43872, 43880, 1), (43968, 44010, 1),
  (44012, 44013, 1), (44016, 44025, 1), (44032, 55203, 1), (64014, 64015, 1), (64017, 64017, 1),
  (64019, 64020, 1), (64031, 64031, 1), (64033, 64033, 1), (64035, 64036, 1), (64039, 64041, 1),
  (64286, 64286, 1), (65056, 65071, 1), (65139, 65139, 1), (65536, 65547, 1), (65549, 65574, 1),
  (65576, 65594, 1), (65596, 65597, 1), (65599, 65613, 1), (65616, 65629, 1), (65664, 65786, 1),
  (66045, 66045, 1), (66176, 66204, 1), (66208, 66256, 1), (66272, 66272, 1), (66304, 66335, 1),
  (66349, 66368, 1), (66370, 66377, 1), (66384, 66426, 1), (66432, 66461, 1), (66464, 66499, 1),
  (66504, 66511, 1), (66600, 66717, 1), (66720, 66729, 1), (66776, 66811, 1), (66816, 66855, 1),
  (66864, 66915, 1), (66967, 66977, 1), (66979, 66993, 1), (66995, 67001, 1), (67003, 67004, 1),
  (67072, 67382, 1), (67392, 67413, 1), (67424, 67431, 1), (67456, 67456, 1), (67584, 67589, 1),
  (67592, 67592, 1), (67594, 67637, 1), (67639, 67640, 1), (67644, 67644, 1), (67647, 67669, 1),
  (67680, 67702, 1), (67712, 67742, 1), (67808, 67826, 1), (67828, 67829, 1), (67840, 67861, 1),
  (67872, 67897, 1), (67968, 68023, 1), (68030, 68031, 1), (68096, 68099, 1), (68101, 68102, 1),
  (68108, 68115, 1), (68117, 68119, 1), (68121, 68149, 1), (68152, 68154, 1), (68159, 68159, 1),
  (68192, 68220, 1), (68224, 68252, 1), (68288, 68295, 1), (68297, 68326, 1), (68352, 68405, 1),
  (68416, 68437, 1), (68448, 68466, 1), (68480, 68497, 1), (68608, 68680, 1), (68800, 68850, 1),
  (68864, 68903, 1), (68912, 68921, 1), (69248, 69289, 1), (69291, 69292, 1), (69296, 69297, 1),
  (69376, 69404, 1), (69415, 69415, 1), (69424, 69456, 1), (69488, 69509, 1), (69552, 69572, 1),
  (69600, 69622, 1), (69632, 69702, 1), (69734, 69749, 1), (69759, 69818, 1), (69826, 69826, 1),
  (69840, 69864, 1), (69872, 69881, 1), (69888, 69940, 1), (69942, 69951, 1), (69956, 69959, 1),
  (69968, 70003, 1), (70006, 70006, 1), (70016, 70084, 1), (70089, 70092, 1), (70094, 70106, 1),
  (70108, 70108, 1), (70144, 70161, 1), (70163, 70199, 1), (70206, 70206, 1), (70272, 70278, 1),
  (70280, 70280, 1), (70282, 70285, 1), (70287, 70301, 1), (70303, 70312, 1), (70320, 70378, 1),
  (70384, 70393, 1), (70400, 70403, 1), (70405, 70412, 1), (70415, 70416, 1), (70419, 70440, 1),
  (70442, 70448, 1), (70450, 70451, 1), (70453, 70457, 1), (70459, 70468, 1), (70471, 70472, 1),
  (70475, 70477, 1), (70480, 70480, 1), (70487, 70487, 1), (70493, 70499, 1), (70502, 70508, 1),
  (70512, 70516, 1), (70656, 70730, 1), (70736, 70745, 1), (70750, 70753, 1), (70784, 70853, 1),
  (70855, 70855, 1), (70864, 70873, 1), (71040, 71093, 1), (71096, 71104, 1), (71128, 71133, 1),
  (71168, 71232, 1), (71236, 71236, 1), (71248, 71257, 1), (71296, 71352, 1), (71360, 71369, 1),
  (71424, 71450, 1), (71453, 71467, 1), (71472, 71481, 1), (71488, 71494, 1), (71680, 71738, 1),
  (71872, 71913, 1), (71935, 71942, 1), (71945, 71945, 1), (71948, 71955, 1), (71957, 71958, 1),
  (71960, 71989, 1), (71991, 71992, 1), (71995, 72003, 1), (72016, 72025, 1), (72096, 72103, 1),
  (72106, 72151, 1), (72154, 72161, 1), (72163, 72164, 1), (72192, 72254, 1), (72263, 72263, 1),
  (72272, 72345, 1), (72349, 72349, 1), (72368, 72440, 1), (72704, 72712, 1), (72714, 72758, 1),
  (72760, 72768, 1), (72784, 72793, 1), (72818, 72847, 1), (72850, 72871, 1), (72873, 72886, 1),
  (72960, 72966, 1), (72968, 72969, 1), (72971, 73014, 1), (73018, 73018, 1), (73020, 73021, 1),
  (73023, 73031, 1), (73040, 73049, 1), (73056, 73061, 1), (73063, 73064, 1), (73066, 73102, 1),
  (73104, 73105, 1), (73107, 73112, 1), (73120, 73129, 1), (73440, 73462, 1), (73648, 73648, 1),
  (73728, 74649, 1), (74880, 75075, 1), (77712, 77808, 1), (77824, 78894, 1), (82944, 83526, 1),
  (92160, 92728, 1), (92736, 92766, 1), (92768, 92777, 1), (92784, 92862, 1), (92864, 92873, 1),
  (92880, 92909, 1), (92912, 92916, 1), (92928, 92982, 1), (92992, 92995, 1), (93008, 93017, 1),
  (93027, 93047, 1), (93053, 93071, 1), (93792, 93823, 1), (93952, 94026, 1), (94031, 94087, 1),
  (94095, 94111, 1), (94176, 94177, 1), (94179, 94180, 1), (94192, 94193, 1), (94208, 100343, 1),
  (100352, 101589, 1), (101632, 101640, 1), (110576, 110579, 1), (110581, 110587, 1),
  (110589, 110590, 1), (110592, 110882, 1), (110928, 110930, 1), (110948, 110951, 1),
  (110960, 111355, 1), (113664, 113770, 1), (113776, 113788, 1), (113792, 113800, 1),
  (113808, 113817, 1), (113821, 113822, 1), (118528, 118573, 1), (118576, 118598, 1),
  (121344, 121398, 1), (121403, 121452, 1), (121461, 121461, 1), (121476, 121476, 1),
  (121499, 121503, 1), (121505, 121519, 1), (122624, 122654, 1), (122880, 122886, 1),
  (122888, 122904, 1), (122907, 122913, 1), (122915, 122916, 1), (122918, 122922, 1),
  (123136, 123180, 1), (123184, 123197, 1), (123200, 123209, 1), (123214, 123214, 1),
  (123536, 123566, 1), (123584, 123641, 1), (124896, 124902, 1), (124904, 124907, 1),
  (124909, 124910, 1), (124912, 124926, 1), (124928, 125124, 1), (125136, 125142, 1),
  (125218, 125259, 1), (125264, 125273, 1), (131072, 173791, 1), (173824, 177976, 1),
  (177984, 178205, 1), (178208, 183969, 1), (183984, 191456, 1), (196608, 201546, 1)]

/-- Whether a label may hold a character anywhere. -/
def isAdmitted (c : Char) : Bool :=
  admitted.any fun (first, last, step) =>
    first ≤ c.toNat && c.toNat ≤ last && (c.toNat - first) % step == 0

/-! ## Composition -/

/-- The classes of marks: first and last of each range, and the class. -/
def classes : Array (Nat × Nat × Nat) := #[
  (768, 788, 230), (789, 789, 232), (790, 793, 220), (794, 794, 232), (795, 795, 216),
  (796, 800, 220), (801, 802, 202), (803, 806, 220), (807, 808, 202), (809, 819, 220),
  (820, 824, 1), (825, 828, 220), (829, 831, 230), (834, 834, 230), (838, 838, 230),
  (839, 841, 220), (842, 844, 230), (845, 846, 220), (848, 850, 230), (851, 854, 220),
  (855, 855, 230), (856, 856, 232), (857, 858, 220), (859, 859, 230), (860, 860, 233),
  (861, 862, 234), (863, 863, 233), (864, 865, 234), (866, 866, 233), (867, 879, 230),
  (1155, 1159, 230), (1425, 1425, 220), (1426, 1429, 230), (1430, 1430, 220), (1431, 1433, 230),
  (1434, 1434, 222), (1435, 1435, 220), (1436, 1441, 230), (1442, 1447, 220), (1448, 1449, 230),
  (1450, 1450, 220), (1451, 1452, 230), (1453, 1453, 222), (1454, 1454, 228), (1455, 1455, 230),
  (1456, 1456, 10), (1457, 1457, 11), (1458, 1458, 12), (1459, 1459, 13), (1460, 1460, 14),
  (1461, 1461, 15), (1462, 1462, 16), (1463, 1463, 17), (1464, 1464, 18), (1465, 1466, 19),
  (1467, 1467, 20), (1468, 1468, 21), (1469, 1469, 22), (1471, 1471, 23), (1473, 1473, 24),
  (1474, 1474, 25), (1476, 1476, 230), (1477, 1477, 220), (1479, 1479, 18), (1552, 1559, 230),
  (1560, 1560, 30), (1561, 1561, 31), (1562, 1562, 32), (1611, 1611, 27), (1612, 1612, 28),
  (1613, 1613, 29), (1614, 1614, 30), (1615, 1615, 31), (1616, 1616, 32), (1617, 1617, 33),
  (1618, 1618, 34), (1619, 1620, 230), (1621, 1622, 220), (1623, 1627, 230), (1628, 1628, 220),
  (1629, 1630, 230), (1631, 1631, 220), (1648, 1648, 35), (1750, 1756, 230), (1759, 1762, 230),
  (1763, 1763, 220), (1764, 1764, 230), (1767, 1768, 230), (1770, 1770, 220), (1771, 1772, 230),
  (1773, 1773, 220), (1809, 1809, 36), (1840, 1840, 230), (1841, 1841, 220), (1842, 1843, 230),
  (1844, 1844, 220), (1845, 1846, 230), (1847, 1849, 220), (1850, 1850, 230), (1851, 1852, 220),
  (1853, 1853, 230), (1854, 1854, 220), (1855, 1857, 230), (1858, 1858, 220), (1859, 1859, 230),
  (1860, 1860, 220), (1861, 1861, 230), (1862, 1862, 220), (1863, 1863, 230), (1864, 1864, 220),
  (1865, 1866, 230), (2027, 2033, 230), (2034, 2034, 220), (2035, 2035, 230), (2045, 2045, 220),
  (2070, 2073, 230), (2075, 2083, 230), (2085, 2087, 230), (2089, 2093, 230), (2137, 2139, 220),
  (2200, 2200, 230), (2201, 2203, 220), (2204, 2207, 230), (2250, 2254, 230), (2255, 2259, 220),
  (2260, 2273, 230), (2275, 2275, 220), (2276, 2277, 230), (2278, 2278, 220), (2279, 2280, 230),
  (2281, 2281, 220), (2282, 2284, 230), (2285, 2287, 220), (2288, 2288, 27), (2289, 2289, 28),
  (2290, 2290, 29), (2291, 2293, 230), (2294, 2294, 220), (2295, 2296, 230), (2297, 2298, 220),
  (2299, 2303, 230), (2364, 2364, 7), (2381, 2381, 9), (2385, 2385, 230), (2386, 2386, 220),
  (2387, 2388, 230), (2492, 2492, 7), (2509, 2509, 9), (2558, 2558, 230), (2620, 2620, 7),
  (2637, 2637, 9), (2748, 2748, 7), (2765, 2765, 9), (2876, 2876, 7), (2893, 2893, 9),
  (3021, 3021, 9), (3132, 3132, 7), (3149, 3149, 9), (3157, 3157, 84), (3158, 3158, 91),
  (3260, 3260, 7), (3277, 3277, 9), (3387, 3388, 9), (3405, 3405, 9), (3530, 3530, 9),
  (3640, 3641, 103), (3642, 3642, 9), (3656, 3659, 107), (3768, 3769, 118), (3770, 3770, 9),
  (3784, 3787, 122), (3864, 3865, 220), (3893, 3893, 220), (3895, 3895, 220), (3897, 3897, 216),
  (3953, 3953, 129), (3954, 3954, 130), (3956, 3956, 132), (3962, 3965, 130), (3968, 3968, 130),
  (3970, 3971, 230), (3972, 3972, 9), (3974, 3975, 230), (4038, 4038, 220), (4151, 4151, 7),
  (4153, 4154, 9), (4237, 4237, 220), (4957, 4959, 230), (5908, 5909, 9), (5940, 5940, 9),
  (6098, 6098, 9), (6109, 6109, 230), (6313, 6313, 228), (6457, 6457, 222), (6458, 6458, 230),
  (6459, 6459, 220), (6679, 6679, 230), (6680, 6680, 220), (6752, 6752, 9), (6773, 6780, 230),
  (6783, 6783, 220), (6832, 6836, 230), (6837, 6842, 220), (6843, 6844, 230), (6845, 6845, 220),
  (6847, 6848, 220), (6849, 6850, 230), (6851, 6852, 220), (6853, 6857, 230), (6858, 6858, 220),
  (6859, 6862, 230), (6964, 6964, 7), (6980, 6980, 9), (7019, 7019, 230), (7020, 7020, 220),
  (7021, 7027, 230), (7082, 7083, 9), (7142, 7142, 7), (7154, 7155, 9), (7223, 7223, 7),
  (7376, 7378, 230), (7380, 7380, 1), (7381, 7385, 220), (7386, 7387, 230), (7388, 7391, 220),
  (7392, 7392, 230), (7394, 7400, 1), (7405, 7405, 220), (7412, 7412, 230), (7416, 7417, 230),
  (7616, 7617, 230), (7618, 7618, 220), (7619, 7625, 230), (7626, 7626, 220), (7627, 7628, 230),
  (7629, 7629, 234), (7630, 7630, 214), (7631, 7631, 220), (7632, 7632, 202), (7633, 7669, 230),
  (7670, 7670, 232), (7671, 7672, 228), (7673, 7673, 220), (7674, 7674, 218), (7675, 7675, 230),
  (7676, 7676, 233), (7677, 7677, 220), (7678, 7678, 230), (7679, 7679, 220), (11503, 11505, 230),
  (11647, 11647, 9), (11744, 11775, 230), (12330, 12330, 218), (12331, 12331, 228),
  (12332, 12332, 232), (12333, 12333, 222), (12441, 12442, 8), (42607, 42607, 230),
  (42612, 42621, 230), (42654, 42655, 230), (42736, 42737, 230), (43014, 43014, 9),
  (43052, 43052, 9), (43204, 43204, 9), (43232, 43249, 230), (43307, 43309, 220), (43347, 43347, 9),
  (43443, 43443, 7), (43456, 43456, 9), (43696, 43696, 230), (43698, 43699, 230),
  (43700, 43700, 220), (43703, 43704, 230), (43710, 43711, 230), (43713, 43713, 230),
  (43766, 43766, 9), (44013, 44013, 9), (64286, 64286, 26), (65056, 65062, 230),
  (65063, 65069, 220), (65070, 65071, 230), (66045, 66045, 220), (66272, 66272, 220),
  (66422, 66426, 230), (68109, 68109, 220), (68111, 68111, 230), (68152, 68152, 230),
  (68153, 68153, 1), (68154, 68154, 220), (68159, 68159, 9), (68325, 68325, 230),
  (68326, 68326, 220), (68900, 68903, 230), (69291, 69292, 230), (69446, 69447, 220),
  (69448, 69450, 230), (69451, 69451, 220), (69452, 69452, 230), (69453, 69456, 220),
  (69506, 69506, 230), (69507, 69507, 220), (69508, 69508, 230), (69509, 69509, 220),
  (69702, 69702, 9), (69744, 69744, 9), (69759, 69759, 9), (69817, 69817, 9), (69818, 69818, 7),
  (69888, 69890, 230), (69939, 69940, 9), (70003, 70003, 7), (70080, 70080, 9), (70090, 70090, 7),
  (70197, 70197, 9), (70198, 70198, 7), (70377, 70377, 7), (70378, 70378, 9), (70459, 70460, 7),
  (70477, 70477, 9), (70502, 70508, 230), (70512, 70516, 230), (70722, 70722, 9), (70726, 70726, 7),
  (70750, 70750, 230), (70850, 70850, 9), (70851, 70851, 7), (71103, 71103, 9), (71104, 71104, 7),
  (71231, 71231, 9), (71350, 71350, 9), (71351, 71351, 7), (71467, 71467, 9), (71737, 71737, 9),
  (71738, 71738, 7), (71997, 71998, 9), (72003, 72003, 7), (72160, 72160, 9), (72244, 72244, 9),
  (72263, 72263, 9), (72345, 72345, 9), (72767, 72767, 9), (73026, 73026, 7), (73028, 73029, 9),
  (73111, 73111, 9), (92912, 92916, 1), (92976, 92982, 230), (94192, 94193, 6), (113822, 113822, 1),
  (122880, 122886, 230), (122888, 122904, 230), (122907, 122913, 230), (122915, 122916, 230),
  (122918, 122922, 230), (123184, 123190, 230), (123566, 123566, 230), (123628, 123631, 230),
  (125136, 125142, 220), (125252, 125257, 230), (125258, 125258, 7)]

/-- The class that orders a mark, zero of what is none. -/
def combiningClass (c : Char) : Nat :=
  match classes.find? fun (first, last, _) => first ≤ c.toNat && c.toNat ≤ last with
  | some (_, _, k) => k
  | none => 0

/-- Two characters and the one that stands for both. -/
def compositions : Array (Nat × Nat × Nat) := #[
  (97, 768, 224), (97, 769, 225), (97, 770, 226), (97, 771, 227), (97, 776, 228), (97, 778, 229),
  (99, 807, 231), (101, 768, 232), (101, 769, 233), (101, 770, 234), (101, 776, 235),
  (105, 768, 236), (105, 769, 237), (105, 770, 238), (105, 776, 239), (110, 771, 241),
  (111, 768, 242), (111, 769, 243), (111, 770, 244), (111, 771, 245), (111, 776, 246),
  (117, 768, 249), (117, 769, 250), (117, 770, 251), (117, 776, 252), (121, 769, 253),
  (121, 776, 255), (97, 772, 257), (97, 774, 259), (97, 808, 261), (99, 769, 263), (99, 770, 265),
  (99, 775, 267), (99, 780, 269), (100, 780, 271), (101, 772, 275), (101, 774, 277),
  (101, 775, 279), (101, 808, 281), (101, 780, 283), (103, 770, 285), (103, 774, 287),
  (103, 775, 289), (103, 807, 291), (104, 770, 293), (105, 771, 297), (105, 772, 299),
  (105, 774, 301), (105, 808, 303), (106, 770, 309), (107, 807, 311), (108, 769, 314),
  (108, 807, 316), (108, 780, 318), (110, 769, 324), (110, 807, 326), (110, 780, 328),
  (111, 772, 333), (111, 774, 335), (111, 779, 337), (114, 769, 341), (114, 807, 343),
  (114, 780, 345), (115, 769, 347), (115, 770, 349), (115, 807, 351), (115, 780, 353),
  (116, 807, 355), (116, 780, 357), (117, 771, 361), (117, 772, 363), (117, 774, 365),
  (117, 778, 367), (117, 779, 369), (117, 808, 371), (119, 770, 373), (121, 770, 375),
  (122, 769, 378), (122, 775, 380), (122, 780, 382), (111, 795, 417), (117, 795, 432),
  (97, 780, 462), (105, 780, 464), (111, 780, 466), (117, 780, 468), (252, 772, 470),
  (252, 769, 472), (252, 780, 474), (252, 768, 476), (228, 772, 479), (551, 772, 481),
  (230, 772, 483), (103, 780, 487), (107, 780, 489), (111, 808, 491), (491, 772, 493),
  (658, 780, 495), (106, 780, 496), (103, 769, 501), (110, 768, 505), (229, 769, 507),
  (230, 769, 509), (248, 769, 511), (97, 783, 513), (97, 785, 515), (101, 783, 517),
  (101, 785, 519), (105, 783, 521), (105, 785, 523), (111, 783, 525), (111, 785, 527),
  (114, 783, 529), (114, 785, 531), (117, 783, 533), (117, 785, 535), (115, 806, 537),
  (116, 806, 539), (104, 780, 543), (97, 775, 551), (101, 807, 553), (246, 772, 555),
  (245, 772, 557), (111, 775, 559), (559, 772, 561), (121, 772, 563), (970, 769, 912),
  (945, 769, 940), (949, 769, 941), (951, 769, 942), (953, 769, 943), (971, 769, 944),
  (953, 776, 970), (965, 776, 971), (959, 769, 972), (965, 769, 973), (969, 769, 974),
  (1080, 774, 1081), (1077, 768, 1104), (1077, 776, 1105), (1075, 769, 1107), (1110, 776, 1111),
  (1082, 769, 1116), (1080, 768, 1117), (1091, 774, 1118), (1141, 783, 1143), (1078, 774, 1218),
  (1072, 774, 1233), (1072, 776, 1235), (1077, 774, 1239), (1241, 776, 1243), (1078, 776, 1245),
  (1079, 776, 1247), (1080, 772, 1251), (1080, 776, 1253), (1086, 776, 1255), (1257, 776, 1259),
  (1101, 776, 1261), (1091, 772, 1263), (1091, 776, 1265), (1091, 779, 1267), (1095, 776, 1269),
  (1099, 776, 1273), (1575, 1619, 1570), (1575, 1620, 1571), (1608, 1620, 1572), (1575, 1621, 1573),
  (1610, 1620, 1574), (1749, 1620, 1728), (1729, 1620, 1730), (1746, 1620, 1747),
  (2344, 2364, 2345), (2352, 2364, 2353), (2355, 2364, 2356), (2503, 2494, 2507),
  (2503, 2519, 2508), (2887, 2902, 2888), (2887, 2878, 2891), (2887, 2903, 2892),
  (2962, 3031, 2964), (3014, 3006, 3018), (3015, 3006, 3019), (3014, 3031, 3020),
  (3142, 3158, 3144), (3263, 3285, 3264), (3270, 3285, 3271), (3270, 3286, 3272),
  (3270, 3266, 3274), (3274, 3285, 3275), (3398, 3390, 3402), (3399, 3390, 3403),
  (3398, 3415, 3404), (3545, 3530, 3546), (3545, 3535, 3548), (3548, 3530, 3549),
  (3545, 3551, 3550), (4133, 4142, 4134), (6917, 6965, 6918), (6919, 6965, 6920),
  (6921, 6965, 6922), (6923, 6965, 6924), (6925, 6965, 6926), (6929, 6965, 6930),
  (6970, 6965, 6971), (6972, 6965, 6973), (6974, 6965, 6976), (6975, 6965, 6977),
  (6978, 6965, 6979), (97, 805, 7681), (98, 775, 7683), (98, 803, 7685), (98, 817, 7687),
  (231, 769, 7689), (100, 775, 7691), (100, 803, 7693), (100, 817, 7695), (100, 807, 7697),
  (100, 813, 7699), (275, 768, 7701), (275, 769, 7703), (101, 813, 7705), (101, 816, 7707),
  (553, 774, 7709), (102, 775, 7711), (103, 772, 7713), (104, 775, 7715), (104, 803, 7717),
  (104, 776, 7719), (104, 807, 7721), (104, 814, 7723), (105, 816, 7725), (239, 769, 7727),
  (107, 769, 7729), (107, 803, 7731), (107, 817, 7733), (108, 803, 7735), (7735, 772, 7737),
  (108, 817, 7739), (108, 813, 7741), (109, 769, 7743), (109, 775, 7745), (109, 803, 7747),
  (110, 775, 7749), (110, 803, 7751), (110, 817, 7753), (110, 813, 7755), (245, 769, 7757),
  (245, 776, 7759), (333, 768, 7761), (333, 769, 7763), (112, 769, 7765), (112, 775, 7767),
  (114, 775, 7769), (114, 803, 7771), (7771, 772, 7773), (114, 817, 7775), (115, 775, 7777),
  (115, 803, 7779), (347, 775, 7781), (353, 775, 7783), (7779, 775, 7785), (116, 775, 7787),
  (116, 803, 7789), (116, 817, 7791), (116, 813, 7793), (117, 804, 7795), (117, 816, 7797),
  (117, 813, 7799), (361, 769, 7801), (363, 776, 7803), (118, 771, 7805), (118, 803, 7807),
  (119, 768, 7809), (119, 769, 7811), (119, 776, 7813), (119, 775, 7815), (119, 803, 7817),
  (120, 775, 7819), (120, 776, 7821), (121, 775, 7823), (122, 770, 7825), (122, 803, 7827),
  (122, 817, 7829), (104, 817, 7830), (116, 776, 7831), (119, 778, 7832), (121, 778, 7833),
  (97, 803, 7841), (97, 777, 7843), (226, 769, 7845), (226, 768, 7847), (226, 777, 7849),
  (226, 771, 7851), (7841, 770, 7853), (259, 769, 7855), (259, 768, 7857), (259, 777, 7859),
  (259, 771, 7861), (7841, 774, 7863), (101, 803, 7865), (101, 777, 7867), (101, 771, 7869),
  (234, 769, 7871), (234, 768, 7873), (234, 777, 7875), (234, 771, 7877), (7865, 770, 7879),
  (105, 777, 7881), (105, 803, 7883), (111, 803, 7885), (111, 777, 7887), (244, 769, 7889),
  (244, 768, 7891), (244, 777, 7893), (244, 771, 7895), (7885, 770, 7897), (417, 769, 7899),
  (417, 768, 7901), (417, 777, 7903), (417, 771, 7905), (417, 803, 7907), (117, 803, 7909),
  (117, 777, 7911), (432, 769, 7913), (432, 768, 7915), (432, 777, 7917), (432, 771, 7919),
  (432, 803, 7921), (121, 768, 7923), (121, 803, 7925), (121, 777, 7927), (121, 771, 7929),
  (945, 787, 7936), (945, 788, 7937), (7936, 768, 7938), (7937, 768, 7939), (7936, 769, 7940),
  (7937, 769, 7941), (7936, 834, 7942), (7937, 834, 7943), (949, 787, 7952), (949, 788, 7953),
  (7952, 768, 7954), (7953, 768, 7955), (7952, 769, 7956), (7953, 769, 7957), (951, 787, 7968),
  (951, 788, 7969), (7968, 768, 7970), (7969, 768, 7971), (7968, 769, 7972), (7969, 769, 7973),
  (7968, 834, 7974), (7969, 834, 7975), (953, 787, 7984), (953, 788, 7985), (7984, 768, 7986),
  (7985, 768, 7987), (7984, 769, 7988), (7985, 769, 7989), (7984, 834, 7990), (7985, 834, 7991),
  (959, 787, 8000), (959, 788, 8001), (8000, 768, 8002), (8001, 768, 8003), (8000, 769, 8004),
  (8001, 769, 8005), (965, 787, 8016), (965, 788, 8017), (8016, 768, 8018), (8017, 768, 8019),
  (8016, 769, 8020), (8017, 769, 8021), (8016, 834, 8022), (8017, 834, 8023), (969, 787, 8032),
  (969, 788, 8033), (8032, 768, 8034), (8033, 768, 8035), (8032, 769, 8036), (8033, 769, 8037),
  (8032, 834, 8038), (8033, 834, 8039), (945, 768, 8048), (949, 768, 8050), (951, 768, 8052),
  (953, 768, 8054), (959, 768, 8056), (965, 768, 8058), (969, 768, 8060), (945, 774, 8112),
  (945, 772, 8113), (945, 834, 8118), (951, 834, 8134), (953, 774, 8144), (953, 772, 8145),
  (970, 768, 8146), (953, 834, 8150), (970, 834, 8151), (965, 774, 8160), (965, 772, 8161),
  (971, 768, 8162), (961, 787, 8164), (961, 788, 8165), (965, 834, 8166), (971, 834, 8167),
  (969, 834, 8182), (12363, 12441, 12364), (12365, 12441, 12366), (12367, 12441, 12368),
  (12369, 12441, 12370), (12371, 12441, 12372), (12373, 12441, 12374), (12375, 12441, 12376),
  (12377, 12441, 12378), (12379, 12441, 12380), (12381, 12441, 12382), (12383, 12441, 12384),
  (12385, 12441, 12386), (12388, 12441, 12389), (12390, 12441, 12391), (12392, 12441, 12393),
  (12399, 12441, 12400), (12399, 12442, 12401), (12402, 12441, 12403), (12402, 12442, 12404),
  (12405, 12441, 12406), (12405, 12442, 12407), (12408, 12441, 12409), (12408, 12442, 12410),
  (12411, 12441, 12412), (12411, 12442, 12413), (12358, 12441, 12436), (12445, 12441, 12446),
  (12459, 12441, 12460), (12461, 12441, 12462), (12463, 12441, 12464), (12465, 12441, 12466),
  (12467, 12441, 12468), (12469, 12441, 12470), (12471, 12441, 12472), (12473, 12441, 12474),
  (12475, 12441, 12476), (12477, 12441, 12478), (12479, 12441, 12480), (12481, 12441, 12482),
  (12484, 12441, 12485), (12486, 12441, 12487), (12488, 12441, 12489), (12495, 12441, 12496),
  (12495, 12442, 12497), (12498, 12441, 12499), (12498, 12442, 12500), (12501, 12441, 12502),
  (12501, 12442, 12503), (12504, 12441, 12505), (12504, 12442, 12506), (12507, 12441, 12508),
  (12507, 12442, 12509), (12454, 12441, 12532), (12527, 12441, 12535), (12528, 12441, 12536),
  (12529, 12441, 12537), (12530, 12441, 12538), (12541, 12441, 12542), (69785, 69818, 69786),
  (69787, 69818, 69788), (69797, 69818, 69803), (69937, 69927, 69934), (69938, 69927, 69935),
  (70471, 70462, 70475), (70471, 70487, 70476), (70841, 70842, 70843), (70841, 70832, 70844),
  (70841, 70845, 70846), (71096, 71087, 71098), (71097, 71087, 71099), (71989, 71984, 71992)]

/-! ## Direction -/

/-- The direction in which a character is written. -/
inductive Direction where
  | left
  | right
  /-- From the right, in Arabic. -/
  | arabic
  | europeanNumber
  | arabicNumber
  /-- A mark, which has the direction of what it combines with. -/
  | mark
  /-- None of its own. -/
  | neutral
deriving DecidableEq, Repr

/-- Characters that are written from the right, as first and last of each range. -/
def rightRanges : Array (Nat × Nat) := #[
  (1488, 1514), (1519, 1524), (1984, 2026), (2036, 2037), (2048, 2069), (2074, 2074), (2084, 2084),
  (2088, 2088), (2112, 2136), (67584, 67589), (67592, 67592), (67594, 67637), (67639, 67640),
  (67644, 67644), (67647, 67669), (67680, 67702), (67712, 67742), (67808, 67826), (67828, 67829),
  (67840, 67861), (67872, 67897), (67968, 68023), (68030, 68031), (68096, 68096), (68112, 68115),
  (68117, 68119), (68121, 68149), (68192, 68220), (68224, 68252), (68288, 68295), (68297, 68324),
  (68352, 68405), (68416, 68437), (68448, 68466), (68480, 68497), (68608, 68680), (68800, 68850),
  (69248, 69289), (69296, 69297), (69376, 69404), (69415, 69415), (69488, 69505), (69552, 69572),
  (69600, 69622), (124928, 125124), (125218, 125251), (125259, 125259), (125264, 125273)]

/-- Those in Arabic, as first and last of each range. -/
def arabicRanges : Array (Nat × Nat) := #[
  (1568, 1599), (1601, 1610), (1646, 1647), (1649, 1652), (1657, 1747), (1749, 1749), (1765, 1766),
  (1774, 1775), (1786, 1791), (1808, 1808), (1810, 1839), (1869, 1957), (1969, 1969), (2144, 2154),
  (2160, 2183), (2185, 2190), (2208, 2249), (65139, 65139), (68864, 68899), (69424, 69445)]

/-- Characters without a direction, as first and last of each range. -/
def neutralRanges : Array (Nat × Nat) := #[
  (45, 45), (183, 183), (697, 698), (710, 719), (748, 748), (885, 885), (8204, 8205),
  (11823, 11823), (12539, 12539), (42623, 42623), (42775, 42783), (42888, 42888)]

/-- The direction of a character that a label may hold. -/
def direction (c : Char) : Direction :=
  if inRanges #[(48, 57), (1776, 1785)] c then .europeanNumber
  else if inRanges #[(1632, 1641), (68912, 68921)] c then .arabicNumber
  else if isNonspacing c then .mark
  else if inRanges rightRanges c then .right
  else if inRanges arabicRanges c then .arabic
  else if inRanges neutralRanges c then .neutral
  else .left

/-! ## Joining -/

/-- Characters that join on both sides, as first and last of each range. -/
def dualJoining : Array (Nat × Nat) := #[
  (1568, 1568), (1574, 1574), (1576, 1576), (1578, 1582), (1587, 1599), (1601, 1607), (1609, 1610),
  (1646, 1647), (1657, 1671), (1690, 1727), (1729, 1730), (1740, 1740), (1742, 1742), (1744, 1745),
  (1786, 1788), (1791, 1791), (1810, 1812), (1818, 1821), (1823, 1831), (1833, 1833), (1835, 1835),
  (1837, 1838), (1870, 1880), (1884, 1898), (1901, 1904), (1906, 1906), (1909, 1911), (1914, 1919),
  (1994, 2026), (2113, 2117), (2120, 2120), (2122, 2131), (2133, 2133), (2144, 2144), (2146, 2149),
  (2152, 2152), (2182, 2182), (2185, 2189), (2208, 2217), (2223, 2224), (2227, 2232), (2234, 2248),
  (6176, 6264), (6279, 6312), (6314, 6314), (43072, 43121), (68288, 68292), (68307, 68310),
  (68312, 68316), (68318, 68320), (68480, 68480), (68482, 68482), (68486, 68488), (68490, 68491),
  (68493, 68493), (68496, 68496), (68865, 68897), (68899, 68899), (69424, 69426), (69428, 69444),
  (69488, 69491), (69494, 69505), (69552, 69552), (69554, 69555), (69560, 69560), (69563, 69564),
  (69566, 69567), (69569, 69569), (69572, 69572), (125218, 125251)]

/-- Characters that join the one before only, as first and last of each range. -/
def rightJoining : Array (Nat × Nat) := #[
  (1570, 1573), (1575, 1575), (1577, 1577), (1583, 1586), (1608, 1608), (1649, 1651), (1672, 1689),
  (1728, 1728), (1731, 1739), (1741, 1741), (1743, 1743), (1746, 1747), (1749, 1749), (1774, 1775),
  (1808, 1808), (1813, 1817), (1822, 1822), (1832, 1832), (1834, 1834), (1836, 1836), (1839, 1839),
  (1869, 1869), (1881, 1883), (1899, 1900), (1905, 1905), (1907, 1908), (1912, 1913), (2112, 2112),
  (2118, 2119), (2121, 2121), (2132, 2132), (2134, 2136), (2151, 2151), (2153, 2154), (2160, 2178),
  (2190, 2190), (2218, 2220), (2222, 2222), (2225, 2226), (2233, 2233), (68293, 68293),
  (68295, 68295), (68297, 68298), (68302, 68306), (68317, 68317), (68321, 68321), (68324, 68324),
  (68481, 68481), (68483, 68485), (68489, 68489), (68492, 68492), (68494, 68495), (68497, 68497),
  (68898, 68898), (69427, 69427), (69492, 69493), (69556, 69558), (69561, 69562), (69565, 69565),
  (69570, 69571)]

/-- Whether a character joins the next one. -/
def joinsNext (c : Char) : Bool :=
  inRanges dualJoining c || inRanges #[(43122, 43122), (68301, 68301), (68311, 68311), (68864, 68864)] c

/-- Whether a character joins the one before. -/
def joinsPrevious (c : Char) : Bool := inRanges dualJoining c || inRanges rightJoining c

/-- Whether joining passes over a character: the marks without a width, a few others and but one. -/
def isTransparent (c : Char) : Bool :=
  (isNonspacing c && c.toNat != 0x1171e) ||
    [0xcbf, 0xcc6, 0x11a07, 0x11a08, 0x11c3f, 0x1e94b].contains c.toNat

/-! ## Scripts -/

/-- Greek characters, as first and last of each range. -/
def greek : Array (Nat × Nat) := #[
  (881, 881), (883, 883), (885, 885), (887, 887), (891, 893), (912, 912), (940, 974), (983, 983),
  (985, 985), (987, 987), (989, 989), (991, 991), (993, 993), (1011, 1011), (1016, 1016),
  (1019, 1020), (7462, 7466), (7936, 7943), (7952, 7957), (7968, 7975), (7984, 7991), (8000, 8005),
  (8016, 8023), (8032, 8039), (8048, 8048), (8050, 8050), (8052, 8052), (8054, 8054), (8056, 8056),
  (8058, 8058), (8060, 8060), (8112, 8113), (8118, 8118), (8134, 8134), (8144, 8146), (8150, 8151),
  (8160, 8162), (8164, 8167), (8182, 8182), (43877, 43877)]

/-- Hebrew characters, as first and last of each range. -/
def hebrew : Array (Nat × Nat) := #[
  (1425, 1469), (1471, 1471), (1473, 1474), (1476, 1477), (1479, 1479), (1488, 1514), (1519, 1524),
  (64286, 64286)]

/-- Hiragana, Katakana and Han, as first and last of each range. -/
def eastAsian : Array (Nat × Nat) := #[
  (12293, 12293), (12295, 12295), (12353, 12438), (12445, 12446), (12449, 12538), (12541, 12542),
  (12784, 12799), (13312, 19903), (19968, 40959), (64014, 64015), (64017, 64017), (64019, 64020),
  (64031, 64031), (64033, 64033), (64035, 64036), (64039, 64041), (94179, 94179), (94192, 94193),
  (110576, 110579), (110581, 110587), (110589, 110590), (110592, 110882), (110928, 110930),
  (110948, 110951), (131072, 173791), (173824, 177976), (177984, 178205), (178208, 183969),
  (183984, 191456), (196608, 201546)]

end RateIsolation.HostChar
