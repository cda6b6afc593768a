import Folio.Text

/-!
# Character categories

Two classes of characters are given by their Unicode categories.  Word
characters are the letters, marks, numbers and connecting punctuation that an
anchor keeps.  Signs are the punctuation and the symbols beside which a run of
emphasis marks may open or close.  A class is listed as the ranges of its code
points, first and last included, in increasing order.
-/

namespace Folio
namespace Text

def inRanges (ranges : List (Nat × Nat)) (c : Char) : Bool :=
  ranges.any fun range => range.1 ≤ c.toNat && c.toNat ≤ range.2

/-!
# Word characters
-/

def wordRanges1 : List (Nat × Nat) :=
  [(48, 57), (65, 90), (95, 95), (97, 122), (170, 170), (178, 179), (181, 181), (185, 186),
   (188, 190), (192, 214), (216, 246), (248, 705), (710, 721), (736, 740), (748, 748),
   (750, 750), (768, 884), (886, 887), (890, 893), (895, 895), (902, 902), (904, 906),
   (908, 908), (910, 929), (931, 1013), (1015, 1153), (1155, 1327), (1329, 1366), (1369, 1369),
   (1377, 1415), (1425, 1469), (1471, 1471), (1473, 1474), (1476, 1477), (1479, 1479),
   (1488, 1514), (1520, 1522), (1552, 1562), (1568, 1641), (1646, 1747), (1749, 1756),
   (1759, 1768), (1770, 1788), (1791, 1791), (1808, 1866), (1869, 1969), (1984, 2037),
   (2042, 2042), (2048, 2093), (2112, 2139), (2208, 2228), (2275, 2403), (2406, 2415),
   (2417, 2435), (2437, 2444), (2447, 2448), (2451, 2472), (2474, 2480), (2482, 2482),
   (2486, 2489), (2492, 2500), (2503, 2504), (2507, 2510), (2519, 2519), (2524, 2525),
   (2527, 2531), (2534, 2545), (2548, 2553), (2561, 2563), (2565, 2570), (2575, 2576),
   (2579, 2600), (2602, 2608), (2610, 2611), (2613, 2614), (2616, 2617), (2620, 2620),
   (2622, 2626), (2631, 2632), (2635, 2637), (2641, 2641), (2649, 2652), (2654, 2654),
   (2662, 2677), (2689, 2691), (2693, 2701), (2703, 2705), (2707, 2728), (2730, 2736),
   (2738, 2739), (2741, 2745), (2748, 2757), (2759, 2761), (2763, 2765), (2768, 2768),
   (2784, 2787), (2790, 2799), (2809, 2809), (2817, 2819), (2821, 2828)]

def wordRanges2 : List (Nat × Nat) :=
  [(2831, 2832), (2835, 2856), (2858, 2864), (2866, 2867), (2869, 2873), (2876, 2884),
   (2887, 2888), (2891, 2893), (2902, 2903), (2908, 2909), (2911, 2915), (2918, 2927),
   (2929, 2935), (2946, 2947), (2949, 2954), (2958, 2960), (2962, 2965), (2969, 2970),
   (2972, 2972), (2974, 2975), (2979, 2980), (2984, 2986), (2990, 3001), (3006, 3010),
   (3014, 3016), (3018, 3021), (3024, 3024), (3031, 3031), (3046, 3058), (3072, 3075),
   (3077, 3084), (3086, 3088), (3090, 3112), (3114, 3129), (3133, 3140), (3142, 3144),
   (3146, 3149), (3157, 3158), (3160, 3162), (3168, 3171), (3174, 3183), (3192, 3198),
   (3201, 3203), (3205, 3212), (3214, 3216), (3218, 3240), (3242, 3251), (3253, 3257),
   (3260, 3268), (3270, 3272), (3274, 3277), (3285, 3286), (3294, 3294), (3296, 3299),
   (3302, 3311), (3313, 3314), (3329, 3331), (3333, 3340), (3342, 3344), (3346, 3386),
   (3389, 3396), (3398, 3400), (3402, 3406), (3415, 3415), (3423, 3427), (3430, 3445),
   (3450, 3455), (3458, 3459), (3461, 3478), (3482, 3505), (3507, 3515), (3517, 3517),
   (3520, 3526), (3530, 3530), (3535, 3540), (3542, 3542), (3544, 3551), (3558, 3567),
   (3570, 3571), (3585, 3642), (3648, 3662), (3664, 3673), (3713, 3714), (3716, 3716),
   (3719, 3720), (3722, 3722), (3725, 3725), (3732, 3735), (3737, 3743), (3745, 3747),
   (3749, 3749), (3751, 3751), (3754, 3755), (3757, 3769), (3771, 3773), (3776, 3780),
   (3782, 3782), (3784, 3789), (3792, 3801), (3804, 3807)]

def wordRanges3 : List (Nat × Nat) :=
  [(3840, 3840), (3864, 3865), (3872, 3891), (3893, 3893), (3895, 3895), (3897, 3897),
   (3902, 3911), (3913, 3948), (3953, 3972), (3974, 3991), (3993, 4028), (4038, 4038),
   (4096, 4169), (4176, 4253), (4256, 4293), (4295, 4295), (4301, 4301), (4304, 4346),
   (4348, 4680), (4682, 4685), (4688, 4694), (4696, 4696), (4698, 4701), (4704, 4744),
   (4746, 4749), (4752, 4784), (4786, 4789), (4792, 4798), (4800, 4800), (4802, 4805),
   (4808, 4822), (4824, 4880), (4882, 4885), (4888, 4954), (4957, 4959), (4969, 4988),
   (4992, 5007), (5024, 5109), (5112, 5117), (5121, 5740), (5743, 5759), (5761, 5786),
   (5792, 5866), (5870, 5880), (5888, 5900), (5902, 5908), (5920, 5940), (5952, 5971),
   (5984, 5996), (5998, 6000), (6002, 6003), (6016, 6099), (6103, 6103), (6108, 6109),
   (6112, 6121), (6128, 6137), (6155, 6157), (6160, 6169), (6176, 6263), (6272, 6314),
   (6320, 6389), (6400, 6430), (6432, 6443), (6448, 6459), (6470, 6509), (6512, 6516),
   (6528, 6571), (6576, 6601), (6608, 6618), (6656, 6683), (6688, 6750), (6752, 6780),
   (6783, 6793), (6800, 6809), (6823, 6823), (6832, 6846), (6912, 6987), (6992, 7001),
   (7019, 7027), (7040, 7155), (7168, 7223), (7232, 7241), (7245, 7293), (7376, 7378),
   (7380, 7414), (7416, 7417), (7424, 7669), (7676, 7957), (7960, 7965), (7968, 8005),
   (8008, 8013), (8016, 8023), (8025, 8025), (8027, 8027), (8029, 8029), (8031, 8061),
   (8064, 8116), (8118, 8124), (8126, 8126), (8130, 8132)]

def wordRanges4 : List (Nat × Nat) :=
  [(8134, 8140), (8144, 8147), (8150, 8155), (8160, 8172), (8178, 8180), (8182, 8188),
   (8255, 8256), (8276, 8276), (8304, 8305), (8308, 8313), (8319, 8329), (8336, 8348),
   (8400, 8432), (8450, 8450), (8455, 8455), (8458, 8467), (8469, 8469), (8473, 8477),
   (8484, 8484), (8486, 8486), (8488, 8488), (8490, 8493), (8495, 8505), (8508, 8511),
   (8517, 8521), (8526, 8526), (8528, 8585), (9312, 9371), (9450, 9471), (10102, 10131),
   (11264, 11310), (11312, 11358), (11360, 11492), (11499, 11507), (11517, 11517),
   (11520, 11557), (11559, 11559), (11565, 11565), (11568, 11623), (11631, 11631),
   (11647, 11670), (11680, 11686), (11688, 11694), (11696, 11702), (11704, 11710),
   (11712, 11718), (11720, 11726), (11728, 11734), (11736, 11742), (11744, 11775),
   (11823, 11823), (12293, 12295), (12321, 12335), (12337, 12341), (12344, 12348),
   (12353, 12438), (12441, 12442), (12445, 12447), (12449, 12538), (12540, 12543),
   (12549, 12589), (12593, 12686), (12690, 12693), (12704, 12730), (12784, 12799),
   (12832, 12841), (12872, 12879), (12881, 12895), (12928, 12937), (12977, 12991),
   (13312, 19893), (19968, 40917), (40960, 42124), (42192, 42237), (42240, 42508),
   (42512, 42539), (42560, 42610), (42612, 42621), (42623, 42737), (42775, 42783),
   (42786, 42888), (42891, 42925), (42928, 42935), (42999, 43047), (43056, 43061),
   (43072, 43123), (43136, 43204), (43216, 43225), (43232, 43255), (43259, 43259),
   (43261, 43261), (43264, 43309), (43312, 43347), (43360, 43388), (43392, 43456),
   (43471, 43481), (43488, 43518), (43520, 43574), (43584, 43597), (43600, 43609)]

def wordRanges5 : List (Nat × Nat) :=
  [(43616, 43638), (43642, 43714), (43739, 43741), (43744, 43759), (43762, 43766),
   (43777, 43782), (43785, 43790), (43793, 43798), (43808, 43814), (43816, 43822),
   (43824, 43866), (43868, 43877), (43888, 44010), (44012, 44013), (44016, 44025),
   (44032, 55203), (55216, 55238), (55243, 55291), (63744, 64109), (64112, 64217),
   (64256, 64262), (64275, 64279), (64285, 64296), (64298, 64310), (64312, 64316),
   (64318, 64318), (64320, 64321), (64323, 64324), (64326, 64433), (64467, 64829),
   (64848, 64911), (64914, 64967), (65008, 65019), (65024, 65039), (65056, 65071),
   (65075, 65076), (65101, 65103), (65136, 65140), (65142, 65276), (65296, 65305),
   (65313, 65338), (65343, 65343), (65345, 65370), (65382, 65470), (65474, 65479),
   (65482, 65487), (65490, 65495), (65498, 65500), (65536, 65547), (65549, 65574),
   (65576, 65594), (65596, 65597), (65599, 65613), (65616, 65629), (65664, 65786),
   (65799, 65843), (65856, 65912), (65930, 65931), (66045, 66045), (66176, 66204),
   (66208, 66256), (66272, 66299), (66304, 66339), (66352, 66378), (66384, 66426),
   (66432, 66461), (66464, 66499), (66504, 66511), (66513, 66517), (66560, 66717),
   (66720, 66729), (66816, 66855), (66864, 66915), (67072, 67382), (67392, 67413),
   (67424, 67431), (67584, 67589), (67592, 67592), (67594, 67637), (67639, 67640),
   (67644, 67644), (67647, 67669), (67672, 67702), (67705, 67742), (67751, 67759),
   (67808, 67826), (67828, 67829), (67835, 67867), (67872, 67897), (67968, 68023),
   (68028, 68047), (68050, 68099), (68101, 68102), (68108, 68115), (68117, 68119),
   (68121, 68147), (68152, 68154), (68159, 68167), (68192, 68222), (68224, 68255)]

def wordRanges6 : List (Nat × Nat) :=
  [(68288, 68295), (68297, 68326), (68331, 68335), (68352, 68405), (68416, 68437),
   (68440, 68466), (68472, 68497), (68521, 68527), (68608, 68680), (68736, 68786),
   (68800, 68850), (68858, 68863), (69216, 69246), (69632, 69702), (69714, 69743),
   (69759, 69818), (69840, 69864), (69872, 69881), (69888, 69940), (69942, 69951),
   (69968, 70003), (70006, 70006), (70016, 70084), (70089, 70092), (70096, 70106),
   (70108, 70108), (70113, 70132), (70144, 70161), (70163, 70199), (70272, 70278),
   (70280, 70280), (70282, 70285), (70287, 70301), (70303, 70312), (70320, 70378),
   (70384, 70393), (70400, 70403), (70405, 70412), (70415, 70416), (70419, 70440),
   (70442, 70448), (70450, 70451), (70453, 70457), (70460, 70468), (70471, 70472),
   (70475, 70477), (70480, 70480), (70487, 70487), (70493, 70499), (70502, 70508),
   (70512, 70516), (70784, 70853), (70855, 70855), (70864, 70873), (71040, 71093),
   (71096, 71104), (71128, 71133), (71168, 71232), (71236, 71236), (71248, 71257),
   (71296, 71351), (71360, 71369), (71424, 71449), (71453, 71467), (71472, 71483),
   (71840, 71922), (71935, 71935), (72384, 72440), (73728, 74649), (74752, 74862),
   (74880, 75075), (77824, 78894), (82944, 83526), (92160, 92728), (92736, 92766),
   (92768, 92777), (92880, 92909), (92912, 92916), (92928, 92982), (92992, 92995),
   (93008, 93017), (93019, 93025), (93027, 93047), (93053, 93071), (93952, 94020),
   (94032, 94078), (94095, 94111), (110592, 110593), (113664, 113770), (113776, 113788),
   (113792, 113800), (113808, 113817), (113821, 113822), (119141, 119145), (119149, 119154),
   (119163, 119170), (119173, 119179), (119210, 119213), (119362, 119364), (119648, 119665)]

def wordRanges7 : List (Nat × Nat) :=
  [(119808, 119892), (119894, 119964), (119966, 119967), (119970, 119970), (119973, 119974),
   (119977, 119980), (119982, 119993), (119995, 119995), (119997, 120003), (120005, 120069),
   (120071, 120074), (120077, 120084), (120086, 120092), (120094, 120121), (120123, 120126),
   (120128, 120132), (120134, 120134), (120138, 120144), (120146, 120485), (120488, 120512),
   (120514, 120538), (120540, 120570), (120572, 120596), (120598, 120628), (120630, 120654),
   (120656, 120686), (120688, 120712), (120714, 120744), (120746, 120770), (120772, 120779),
   (120782, 120831), (121344, 121398), (121403, 121452), (121461, 121461), (121476, 121476),
   (121499, 121503), (121505, 121519), (124928, 125124), (125127, 125142), (126464, 126467),
   (126469, 126495), (126497, 126498), (126500, 126500), (126503, 126503), (126505, 126514),
   (126516, 126519), (126521, 126521), (126523, 126523), (126530, 126530), (126535, 126535),
   (126537, 126537), (126539, 126539), (126541, 126543), (126545, 126546), (126548, 126548),
   (126551, 126551), (126553, 126553), (126555, 126555), (126557, 126557), (126559, 126559),
   (126561, 126562), (126564, 126564), (126567, 126570), (126572, 126578), (126580, 126583),
   (126585, 126588), (126590, 126590), (126592, 126601), (126603, 126619), (126625, 126627),
   (126629, 126633), (126635, 126651), (127232, 127244), (131072, 173782), (173824, 177972),
   (177984, 178205), (178208, 183969), (194560, 195101), (917760, 917999)]

def wordRanges : List (Nat × Nat) :=
  wordRanges1 ++
    wordRanges2 ++
    wordRanges3 ++
    wordRanges4 ++
    wordRanges5 ++
    wordRanges6 ++
    wordRanges7

def isWordChar (c : Char) : Bool :=
  if c.toNat < 128 then
    isAsciiAlphanum c || c = '_'
  else
    inRanges wordRanges c

/-!
# Signs
-/

def signRanges1 : List (Nat × Nat) :=
  [(33, 47), (58, 64), (91, 96), (123, 126), (161, 169), (171, 172), (174, 177), (180, 180),
   (182, 184), (187, 187), (191, 191), (215, 215), (247, 247), (706, 709), (722, 735),
   (741, 747), (749, 749), (751, 767), (885, 885), (894, 894), (900, 901), (903, 903),
   (1014, 1014), (1154, 1154), (1370, 1375), (1417, 1418), (1421, 1423), (1470, 1470),
   (1472, 1472), (1475, 1475), (1478, 1478), (1523, 1524), (1542, 1551), (1563, 1563),
   (1566, 1567), (1642, 1645), (1748, 1748), (1758, 1758), (1769, 1769), (1789, 1790),
   (1792, 1805), (2038, 2041), (2096, 2110), (2142, 2142), (2404, 2405), (2416, 2416),
   (2546, 2547), (2554, 2555), (2800, 2801), (2928, 2928), (3059, 3066), (3199, 3199),
   (3449, 3449), (3572, 3572), (3647, 3647), (3663, 3663), (3674, 3675), (3841, 3863),
   (3866, 3871), (3892, 3892), (3894, 3894), (3896, 3896), (3898, 3901), (3973, 3973),
   (4030, 4037), (4039, 4044), (4046, 4058), (4170, 4175), (4254, 4255), (4347, 4347),
   (4960, 4968), (5008, 5017), (5120, 5120), (5741, 5742), (5787, 5788), (5867, 5869),
   (5941, 5942), (6100, 6102), (6104, 6107), (6144, 6154), (6464, 6464), (6468, 6469),
   (6622, 6655), (6686, 6687), (6816, 6822), (6824, 6829), (7002, 7018), (7028, 7036),
   (7164, 7167), (7227, 7231), (7294, 7295), (7360, 7367), (7379, 7379), (8125, 8125),
   (8127, 8129), (8141, 8143), (8157, 8159), (8173, 8175), (8189, 8190), (8208, 8231)]

def signRanges2 : List (Nat × Nat) :=
  [(8240, 8286), (8314, 8318), (8330, 8334), (8352, 8382), (8448, 8449), (8451, 8454),
   (8456, 8457), (8468, 8468), (8470, 8472), (8478, 8483), (8485, 8485), (8487, 8487),
   (8489, 8489), (8494, 8494), (8506, 8507), (8512, 8516), (8522, 8525), (8527, 8527),
   (8586, 8587), (8592, 9210), (9216, 9254), (9280, 9290), (9372, 9449), (9472, 10101),
   (10132, 11123), (11126, 11157), (11160, 11193), (11197, 11208), (11210, 11217),
   (11244, 11247), (11493, 11498), (11513, 11516), (11518, 11519), (11632, 11632),
   (11776, 11822), (11824, 11842), (11904, 11929), (11931, 12019), (12032, 12245),
   (12272, 12283), (12289, 12292), (12296, 12320), (12336, 12336), (12342, 12343),
   (12349, 12351), (12443, 12444), (12448, 12448), (12539, 12539), (12688, 12689),
   (12694, 12703), (12736, 12771), (12800, 12830), (12842, 12871), (12880, 12880),
   (12896, 12927), (12938, 12976), (12992, 13054), (13056, 13311), (19904, 19967),
   (42128, 42182), (42238, 42239), (42509, 42511), (42611, 42611), (42622, 42622),
   (42738, 42743), (42752, 42774), (42784, 42785), (42889, 42890), (43048, 43051),
   (43062, 43065), (43124, 43127), (43214, 43215), (43256, 43258), (43260, 43260),
   (43310, 43311), (43359, 43359), (43457, 43469), (43486, 43487), (43612, 43615),
   (43639, 43641), (43742, 43743), (43760, 43761), (43867, 43867), (44011, 44011),
   (64297, 64297), (64434, 64449), (64830, 64831), (65020, 65021), (65040, 65049),
   (65072, 65106), (65108, 65126), (65128, 65131), (65281, 65295), (65306, 65312),
   (65339, 65344), (65371, 65381), (65504, 65510), (65512, 65518), (65532, 65533),
   (65792, 65794)]

def signRanges3 : List (Nat × Nat) :=
  [(65847, 65855), (65913, 65929), (65932, 65932), (65936, 65947), (65952, 65952),
   (66000, 66044), (66463, 66463), (66512, 66512), (66927, 66927), (67671, 67671),
   (67703, 67704), (67871, 67871), (67903, 67903), (68176, 68184), (68223, 68223),
   (68296, 68296), (68336, 68342), (68409, 68415), (68505, 68508), (69703, 69709),
   (69819, 69820), (69822, 69825), (69952, 69955), (70004, 70005), (70085, 70088),
   (70093, 70093), (70107, 70107), (70109, 70111), (70200, 70205), (70313, 70313),
   (70854, 70854), (71105, 71127), (71233, 71235), (71484, 71487), (74864, 74868),
   (92782, 92783), (92917, 92917), (92983, 92991), (92996, 92997), (113820, 113820),
   (113823, 113823), (118784, 119029), (119040, 119078), (119081, 119140), (119146, 119148),
   (119171, 119172), (119180, 119209), (119214, 119272), (119296, 119361), (119365, 119365),
   (119552, 119638), (120513, 120513), (120539, 120539), (120571, 120571), (120597, 120597),
   (120629, 120629), (120655, 120655), (120687, 120687), (120713, 120713), (120745, 120745),
   (120771, 120771), (120832, 121343), (121399, 121402), (121453, 121460), (121462, 121475),
   (121477, 121483), (126704, 126705), (126976, 127019), (127024, 127123), (127136, 127150),
   (127153, 127167), (127169, 127183), (127185, 127221), (127248, 127278), (127280, 127339),
   (127344, 127386), (127462, 127490), (127504, 127546), (127552, 127560), (127568, 127569),
   (127744, 128377), (128379, 128419), (128421, 128720), (128736, 128748), (128752, 128755),
   (128768, 128883), (128896, 128980), (129024, 129035), (129040, 129095), (129104, 129113),
   (129120, 129159), (129168, 129197), (129296, 129304), (129408, 129412), (129472, 129472)]

def signRanges : List (Nat × Nat) :=
  signRanges1 ++
    signRanges2 ++
    signRanges3

def isSign (c : Char) : Bool :=
  if c.toNat < 128 then
    isAsciiPunct c
  else
    inRanges signRanges c

end Text
end Folio
