import VectorLint.Text.Changes

/-!
# The direction of characters

Letters are written from left to right or from right to left; digits, marks and blanks have no
direction of their own. The two classes of Unicode 14 are stored by their changes.
-/

namespace VectorLint.Text

/-- A direction of writing. -/
inductive Direction where
  | leftToRight
  | rightToLeft
  deriving DecidableEq, Repr

/-- The code points at which being written from left to right changes; the first one starts a range
that is. -/
def leftToRightChanges : List Nat := [
  65, 91, 97, 123, 170, 171, 181, 182, 186, 187, 192, 215, 216, 247, 248, 697, 699, 706, 720, 722,
  736, 741, 750, 751, 880, 884, 886, 888, 890, 894, 895, 896, 902, 903, 904, 907, 908, 909, 910,
  930, 931, 1014, 1015, 1155, 1162, 1328, 1329, 1367, 1369, 1418, 2307, 2362, 2363, 2364, 2365,
  2369, 2377, 2381, 2382, 2385, 2392, 2402, 2404, 2433, 2434, 2436, 2437, 2445, 2447, 2449, 2451,
  2473, 2474, 2481, 2482, 2483, 2486, 2490, 2493, 2497, 2503, 2505, 2507, 2509, 2510, 2511, 2519,
  2520, 2524, 2526, 2527, 2530, 2534, 2546, 2548, 2555, 2556, 2558, 2563, 2564, 2565, 2571, 2575,
  2577, 2579, 2601, 2602, 2609, 2610, 2612, 2613, 2615, 2616, 2618, 2622, 2625, 2649, 2653, 2654,
  2655, 2662, 2672, 2674, 2677, 2678, 2679, 2691, 2692, 2693, 2702, 2703, 2706, 2707, 2729, 2730,
  2737, 2738, 2740, 2741, 2746, 2749, 2753, 2761, 2762, 2763, 2765, 2768, 2769, 2784, 2786, 2790,
  2801, 2809, 2810, 2818, 2820, 2821, 2829, 2831, 2833, 2835, 2857, 2858, 2865, 2866, 2868, 2869,
  2874, 2877, 2879, 2880, 2881, 2887, 2889, 2891, 2893, 2903, 2904, 2908, 2910, 2911, 2914, 2918,
  2936, 2947, 2948, 2949, 2955, 2958, 2961, 2962, 2966, 2969, 2971, 2972, 2973, 2974, 2976, 2979,
  2981, 2984, 2987, 2990, 3002, 3006, 3008, 3009, 3011, 3014, 3017, 3018, 3021, 3024, 3025, 3031,
  3032, 3046, 3059, 3073, 3076, 3077, 3085, 3086, 3089, 3090, 3113, 3114, 3130, 3133, 3134, 3137,
  3141, 3160, 3163, 3165, 3166, 3168, 3170, 3174, 3184, 3191, 3192, 3199, 3201, 3202, 3213, 3214,
  3217, 3218, 3241, 3242, 3252, 3253, 3258, 3261, 3269, 3270, 3273, 3274, 3276, 3285, 3287, 3293,
  3295, 3296, 3298, 3302, 3312, 3313, 3315, 3330, 3341, 3342, 3345, 3346, 3387, 3389, 3393, 3398,
  3401, 3402, 3405, 3406, 3408, 3412, 3426, 3430, 3456, 3458, 3460, 3461, 3479, 3482, 3506, 3507,
  3516, 3517, 3518, 3520, 3527, 3535, 3538, 3544, 3552, 3558, 3568, 3570, 3573, 3585, 3633, 3634,
  3636, 3648, 3655, 3663, 3676, 3713, 3715, 3716, 3717, 3718, 3723, 3724, 3748, 3749, 3750, 3751,
  3761, 3762, 3764, 3773, 3774, 3776, 3781, 3782, 3783, 3792, 3802, 3804, 3808, 3840, 3864, 3866,
  3893, 3894, 3895, 3896, 3897, 3902, 3912, 3913, 3949, 3967, 3968, 3973, 3974, 3976, 3981, 4030,
  4038, 4039, 4045, 4046, 4059, 4096, 4141, 4145, 4146, 4152, 4153, 4155, 4157, 4159, 4184, 4186,
  4190, 4193, 4209, 4213, 4226, 4227, 4229, 4231, 4237, 4238, 4253, 4254, 4294, 4295, 4296, 4301,
  4302, 4304, 4681, 4682, 4686, 4688, 4695, 4696, 4697, 4698, 4702, 4704, 4745, 4746, 4750, 4752,
  4785, 4786, 4790, 4792, 4799, 4800, 4801, 4802, 4806, 4808, 4823, 4824, 4881, 4882, 4886, 4888,
  4955, 4960, 4989, 4992, 5008, 5024, 5110, 5112, 5118, 5121, 5760, 5761, 5787, 5792, 5881, 5888,
  5906, 5909, 5910, 5919, 5938, 5940, 5943, 5952, 5970, 5984, 5997, 5998, 6001, 6016, 6068, 6070,
  6071, 6078, 6086, 6087, 6089, 6100, 6107, 6108, 6109, 6112, 6122, 6160, 6170, 6176, 6265, 6272,
  6277, 6279, 6313, 6314, 6315, 6320, 6390, 6400, 6431, 6435, 6439, 6441, 6444, 6448, 6450, 6451,
  6457, 6470, 6510, 6512, 6517, 6528, 6572, 6576, 6602, 6608, 6619, 6656, 6679, 6681, 6683, 6686,
  6742, 6743, 6744, 6753, 6754, 6755, 6757, 6765, 6771, 6784, 6794, 6800, 6810, 6816, 6830, 6916,
  6964, 6965, 6966, 6971, 6972, 6973, 6978, 6979, 6989, 6992, 7019, 7028, 7039, 7042, 7074, 7078,
  7080, 7082, 7083, 7086, 7142, 7143, 7144, 7146, 7149, 7150, 7151, 7154, 7156, 7164, 7212, 7220,
  7222, 7227, 7242, 7245, 7305, 7312, 7355, 7357, 7368, 7379, 7380, 7393, 7394, 7401, 7405, 7406,
  7412, 7413, 7416, 7418, 7419, 7424, 7616, 7680, 7958, 7960, 7966, 7968, 8006, 8008, 8014, 8016,
  8024, 8025, 8026, 8027, 8028, 8029, 8030, 8031, 8062, 8064, 8117, 8118, 8125, 8126, 8127, 8130,
  8133, 8134, 8141, 8144, 8148, 8150, 8156, 8160, 8173, 8178, 8181, 8182, 8189, 8206, 8207, 8305,
  8306, 8319, 8320, 8336, 8349, 8450, 8451, 8455, 8456, 8458, 8468, 8469, 8470, 8473, 8478, 8484,
  8485, 8486, 8487, 8488, 8489, 8490, 8494, 8495, 8506, 8508, 8512, 8517, 8522, 8526, 8528, 8544,
  8585, 9014, 9083, 9109, 9110, 9372, 9450, 9900, 9901, 10240, 10496, 11264, 11493, 11499, 11503,
  11506, 11508, 11520, 11558, 11559, 11560, 11565, 11566, 11568, 11624, 11631, 11633, 11648, 11671,
  11680, 11687, 11688, 11695, 11696, 11703, 11704, 11711, 11712, 11719, 11720, 11727, 11728, 11735,
  11736, 11743, 12293, 12296, 12321, 12330, 12334, 12336, 12337, 12342, 12344, 12349, 12353, 12439,
  12445, 12448, 12449, 12539, 12540, 12544, 12549, 12592, 12593, 12687, 12688, 12736, 12784, 12829,
  12832, 12880, 12896, 12924, 12927, 12977, 12992, 13004, 13008, 13175, 13179, 13278, 13280, 13311,
  13312, 19904, 19968, 42125, 42192, 42509, 42512, 42540, 42560, 42607, 42624, 42654, 42656, 42736,
  42738, 42744, 42786, 42888, 42889, 42955, 42960, 42962, 42963, 42964, 42965, 42970, 42994, 43010,
  43011, 43014, 43015, 43019, 43020, 43045, 43047, 43048, 43056, 43064, 43072, 43124, 43136, 43204,
  43214, 43226, 43250, 43263, 43264, 43302, 43310, 43335, 43346, 43348, 43359, 43389, 43395, 43443,
  43444, 43446, 43450, 43452, 43454, 43470, 43471, 43482, 43486, 43493, 43494, 43519, 43520, 43561,
  43567, 43569, 43571, 43573, 43584, 43587, 43588, 43596, 43597, 43598, 43600, 43610, 43612, 43644,
  43645, 43696, 43697, 43698, 43701, 43703, 43705, 43710, 43712, 43713, 43714, 43715, 43739, 43756,
  43758, 43766, 43777, 43783, 43785, 43791, 43793, 43799, 43808, 43815, 43816, 43823, 43824, 43882,
  43888, 44005, 44006, 44008, 44009, 44013, 44016, 44026, 44032, 55204, 55216, 55239, 55243, 55292,
  57344, 64110, 64112, 64218, 64256, 64263, 64275, 64280, 65313, 65339, 65345, 65371, 65382, 65471,
  65474, 65480, 65482, 65488, 65490, 65496, 65498, 65501, 65536, 65548, 65549, 65575, 65576, 65595,
  65596, 65598, 65599, 65614, 65616, 65630, 65664, 65787, 65792, 65793, 65794, 65795, 65799, 65844,
  65847, 65856, 65933, 65935, 66000, 66045, 66176, 66205, 66208, 66257, 66304, 66340, 66349, 66379,
  66384, 66422, 66432, 66462, 66463, 66500, 66504, 66518, 66560, 66718, 66720, 66730, 66736, 66772,
  66776, 66812, 66816, 66856, 66864, 66916, 66927, 66939, 66940, 66955, 66956, 66963, 66964, 66966,
  66967, 66978, 66979, 66994, 66995, 67002, 67003, 67005, 67072, 67383, 67392, 67414, 67424, 67432,
  67456, 67462, 67463, 67505, 67506, 67515, 69632, 69633, 69634, 69688, 69703, 69710, 69734, 69744,
  69745, 69747, 69749, 69750, 69762, 69811, 69815, 69817, 69819, 69826, 69837, 69838, 69840, 69865,
  69872, 69882, 69891, 69927, 69932, 69933, 69942, 69960, 69968, 70003, 70004, 70007, 70018, 70070,
  70079, 70089, 70093, 70095, 70096, 70112, 70113, 70133, 70144, 70162, 70163, 70191, 70194, 70196,
  70197, 70198, 70200, 70206, 70272, 70279, 70280, 70281, 70282, 70286, 70287, 70302, 70303, 70314,
  70320, 70367, 70368, 70371, 70384, 70394, 70402, 70404, 70405, 70413, 70415, 70417, 70419, 70441,
  70442, 70449, 70450, 70452, 70453, 70458, 70461, 70464, 70465, 70469, 70471, 70473, 70475, 70478,
  70480, 70481, 70487, 70488, 70493, 70500, 70656, 70712, 70720, 70722, 70725, 70726, 70727, 70748,
  70749, 70750, 70751, 70754, 70784, 70835, 70841, 70842, 70843, 70847, 70849, 70850, 70852, 70856,
  70864, 70874, 71040, 71090, 71096, 71100, 71102, 71103, 71105, 71132, 71168, 71219, 71227, 71229,
  71230, 71231, 71233, 71237, 71248, 71258, 71296, 71339, 71340, 71341, 71342, 71344, 71350, 71351,
  71352, 71354, 71360, 71370, 71424, 71451, 71456, 71458, 71462, 71463, 71472, 71495, 71680, 71727,
  71736, 71737, 71739, 71740, 71840, 71923, 71935, 71943, 71945, 71946, 71948, 71956, 71957, 71959,
  71960, 71990, 71991, 71993, 71997, 71998, 71999, 72003, 72004, 72007, 72016, 72026, 72096, 72104,
  72106, 72148, 72156, 72160, 72161, 72165, 72192, 72193, 72199, 72201, 72203, 72243, 72249, 72251,
  72255, 72263, 72272, 72273, 72279, 72281, 72284, 72330, 72343, 72344, 72346, 72355, 72368, 72441,
  72704, 72713, 72714, 72752, 72766, 72774, 72784, 72813, 72816, 72848, 72873, 72874, 72881, 72882,
  72884, 72885, 72960, 72967, 72968, 72970, 72971, 73009, 73030, 73031, 73040, 73050, 73056, 73062,
  73063, 73065, 73066, 73103, 73107, 73109, 73110, 73111, 73112, 73113, 73120, 73130, 73440, 73459,
  73461, 73465, 73648, 73649, 73664, 73685, 73727, 74650, 74752, 74863, 74864, 74869, 74880, 75076,
  77712, 77811, 77824, 78895, 78896, 78905, 82944, 83527, 92160, 92729, 92736, 92767, 92768, 92778,
  92782, 92863, 92864, 92874, 92880, 92910, 92917, 92918, 92928, 92976, 92983, 92998, 93008, 93018,
  93019, 93026, 93027, 93048, 93053, 93072, 93760, 93851, 93952, 94027, 94032, 94088, 94099, 94112,
  94176, 94178, 94179, 94180, 94192, 94194, 94208, 100344, 100352, 101590, 101632, 101641, 110576,
  110580, 110581, 110588, 110589, 110591, 110592, 110883, 110928, 110931, 110948, 110952, 110960,
  111356, 113664, 113771, 113776, 113789, 113792, 113801, 113808, 113818, 113820, 113821, 113823,
  113824, 118608, 118724, 118784, 119030, 119040, 119079, 119081, 119143, 119146, 119155, 119171,
  119173, 119180, 119210, 119214, 119273, 119520, 119540, 119648, 119673, 119808, 119893, 119894,
  119965, 119966, 119968, 119970, 119971, 119973, 119975, 119977, 119981, 119982, 119994, 119995,
  119996, 119997, 120004, 120005, 120070, 120071, 120075, 120077, 120085, 120086, 120093, 120094,
  120122, 120123, 120127, 120128, 120133, 120134, 120135, 120138, 120145, 120146, 120486, 120488,
  120539, 120540, 120597, 120598, 120655, 120656, 120713, 120714, 120771, 120772, 120780, 120832,
  121344, 121399, 121403, 121453, 121461, 121462, 121476, 121477, 121484, 122624, 122655, 123136,
  123181, 123191, 123198, 123200, 123210, 123214, 123216, 123536, 123566, 123584, 123628, 123632,
  123642, 124896, 124903, 124904, 124908, 124909, 124911, 124912, 124927, 127248, 127279, 127280,
  127338, 127344, 127405, 127462, 127491, 127504, 127548, 127552, 127561, 127568, 127570, 131072,
  173792, 173824, 177977, 177984, 178206, 178208, 183970, 183984, 191457, 194560, 195102, 196608,
  201547, 983040, 1048574, 1048576, 1114110]

/-- The code points at which being written from right to left changes; the first one starts a range
that is. -/
def rightToLeftChanges : List Nat := [
  1470, 1471, 1472, 1473, 1475, 1476, 1478, 1479, 1488, 1515, 1519, 1525, 1544, 1545, 1547, 1548,
  1549, 1550, 1563, 1611, 1645, 1648, 1649, 1750, 1765, 1767, 1774, 1776, 1786, 1806, 1807, 1809,
  1810, 1840, 1869, 1958, 1969, 1970, 1984, 2027, 2036, 2038, 2042, 2043, 2046, 2070, 2074, 2075,
  2084, 2085, 2088, 2089, 2096, 2111, 2112, 2137, 2142, 2143, 2144, 2155, 2160, 2191, 2208, 2250,
  8207, 8208, 64285, 64286, 64287, 64297, 64298, 64311, 64312, 64317, 64318, 64319, 64320, 64322,
  64323, 64325, 64326, 64451, 64467, 64830, 64848, 64912, 64914, 64968, 65008, 65021, 65136, 65141,
  65142, 65277, 67584, 67590, 67592, 67593, 67594, 67638, 67639, 67641, 67644, 67645, 67647, 67670,
  67671, 67743, 67751, 67760, 67808, 67827, 67828, 67830, 67835, 67868, 67872, 67898, 67903, 67904,
  67968, 68024, 68028, 68048, 68050, 68097, 68112, 68116, 68117, 68120, 68121, 68150, 68160, 68169,
  68176, 68185, 68192, 68256, 68288, 68325, 68331, 68343, 68352, 68406, 68416, 68438, 68440, 68467,
  68472, 68498, 68505, 68509, 68521, 68528, 68608, 68681, 68736, 68787, 68800, 68851, 68858, 68900,
  69248, 69290, 69293, 69294, 69296, 69298, 69376, 69416, 69424, 69446, 69457, 69466, 69488, 69506,
  69510, 69514, 69552, 69580, 69600, 69623, 124928, 125125, 125127, 125136, 125184, 125252, 125259,
  125260, 125264, 125274, 125278, 125280, 126065, 126133, 126209, 126270, 126464, 126468, 126469,
  126496, 126497, 126499, 126500, 126501, 126503, 126504, 126505, 126515, 126516, 126520, 126521,
  126522, 126523, 126524, 126530, 126531, 126535, 126536, 126537, 126538, 126539, 126540, 126541,
  126544, 126545, 126547, 126548, 126549, 126551, 126552, 126553, 126554, 126555, 126556, 126557,
  126558, 126559, 126560, 126561, 126563, 126564, 126565, 126567, 126571, 126572, 126579, 126580,
  126584, 126585, 126589, 126590, 126591, 126592, 126602, 126603, 126620, 126625, 126628, 126629,
  126634, 126635, 126652]

/-- The direction of a character, if it has one. -/
def directionOf? (c : Char) : Option Direction :=
  if betweenChanges leftToRightChanges c.toNat then some .leftToRight
  else if betweenChanges rightToLeftChanges c.toNat then some .rightToLeft
  else none

/-- The direction of the first character that has one. -/
def firstDirection? (s : String) : Option Direction := s.toList.findSome? directionOf?

end VectorLint.Text
