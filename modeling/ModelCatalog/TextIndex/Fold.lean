import ModelCatalog.Text.Ranges

/-!
The character classes of the text indexes: what separates tokens, and how the letters of a token are
folded. Letter case is folded by single characters, and a Latin letter with one mark loses it.
-/

namespace ModelCatalog.TextIndex

/-- The characters that separate tokens: all but letters, numbers and those of private use. -/
def separatorRanges : Text.Ranges :=
  [(0, 47), (58, 64), (91, 96), (123, 169), (171, 177), (180, 180), (182, 184), (187, 187),
   (191, 191), (215, 215), (247, 247), (706, 709), (722, 735), (741, 747), (749, 749), (751, 879),
   (885, 885), (894, 894), (900, 901), (903, 903), (1014, 1014), (1154, 1161), (1370, 1375),
   (1417, 1418), (1423, 1423), (1425, 1479), (1523, 1524), (1536, 1540), (1542, 1563), (1566, 1567),
   (1611, 1631), (1642, 1645), (1648, 1648), (1748, 1748), (1750, 1764), (1767, 1773), (1789, 1790),
   (1792, 1805), (1807, 1807), (1809, 1809), (1840, 1866), (1958, 1968), (2027, 2035), (2038, 2041),
   (2070, 2073), (2075, 2083), (2085, 2087), (2089, 2093), (2096, 2110), (2137, 2139), (2142, 2142),
   (2276, 2302), (2304, 2307), (2362, 2364), (2366, 2383), (2385, 2391), (2402, 2405), (2416, 2416),
   (2433, 2435), (2492, 2492), (2494, 2500), (2503, 2504), (2507, 2509), (2519, 2519), (2530, 2531),
   (2546, 2547), (2554, 2555), (2561, 2563), (2620, 2620), (2622, 2626), (2631, 2632), (2635, 2637),
   (2641, 2641), (2672, 2673), (2677, 2677), (2689, 2691), (2748, 2748), (2750, 2757), (2759, 2761),
   (2763, 2765), (2786, 2787), (2800, 2801), (2817, 2819), (2876, 2876), (2878, 2884), (2887, 2888),
   (2891, 2893), (2902, 2903), (2914, 2915), (2928, 2928), (2946, 2946), (3006, 3010), (3014, 3016),
   (3018, 3021), (3031, 3031), (3059, 3066), (3073, 3075), (3134, 3140), (3142, 3144), (3146, 3149),
   (3157, 3158), (3170, 3171), (3199, 3199), (3202, 3203), (3260, 3260), (3262, 3268), (3270, 3272),
   (3274, 3277), (3285, 3286), (3298, 3299), (3330, 3331), (3390, 3396), (3398, 3400), (3402, 3405),
   (3415, 3415), (3426, 3427), (3449, 3449), (3458, 3459), (3530, 3530), (3535, 3540), (3542, 3542),
   (3544, 3551), (3570, 3572), (3633, 3633), (3636, 3642), (3647, 3647), (3655, 3663), (3674, 3675),
   (3761, 3761), (3764, 3769), (3771, 3772), (3784, 3789), (3841, 3871), (3892, 3903), (3953, 3975),
   (3981, 3991), (3993, 4028), (4030, 4044), (4046, 4058), (4139, 4158), (4170, 4175), (4182, 4185),
   (4190, 4192), (4194, 4196), (4199, 4205), (4209, 4212), (4226, 4237), (4239, 4239), (4250, 4255),
   (4347, 4347), (4957, 4968), (5008, 5017), (5120, 5120), (5741, 5742), (5760, 5760), (5787, 5788),
   (5867, 5869), (5906, 5908), (5938, 5942), (5970, 5971), (6002, 6003), (6068, 6102), (6104, 6107),
   (6109, 6109), (6144, 6158), (6313, 6313), (6432, 6443), (6448, 6459), (6464, 6464), (6468, 6469),
   (6576, 6592), (6600, 6601), (6622, 6655), (6679, 6683), (6686, 6687), (6741, 6750), (6752, 6780),
   (6783, 6783), (6816, 6822), (6824, 6829), (6912, 6916), (6964, 6980), (7002, 7036), (7040, 7042),
   (7073, 7085), (7142, 7155), (7164, 7167), (7204, 7223), (7227, 7231), (7294, 7295), (7360, 7367),
   (7376, 7400), (7405, 7405), (7410, 7412), (7616, 7654), (7676, 7679), (8125, 8125), (8127, 8129),
   (8141, 8143), (8157, 8159), (8173, 8175), (8189, 8190), (8192, 8292), (8298, 8303), (8314, 8318),
   (8330, 8334), (8352, 8377), (8400, 8432), (8448, 8449), (8451, 8454), (8456, 8457), (8468, 8468),
   (8470, 8472), (8478, 8483), (8485, 8485), (8487, 8487), (8489, 8489), (8494, 8494), (8506, 8507),
   (8512, 8516), (8522, 8525), (8527, 8527), (8592, 9203), (9216, 9254), (9280, 9290), (9372, 9449),
   (9472, 9983), (9985, 10101), (10132, 11084), (11088, 11097), (11493, 11498), (11503, 11505),
   (11513, 11516), (11518, 11519), (11632, 11632), (11647, 11647), (11744, 11822), (11824, 11835),
   (11904, 11929), (11931, 12019), (12032, 12245), (12272, 12283), (12288, 12292), (12296, 12320),
   (12330, 12336), (12342, 12343), (12349, 12351), (12441, 12444), (12448, 12448), (12539, 12539),
   (12688, 12689), (12694, 12703), (12736, 12771), (12800, 12830), (12842, 12871), (12880, 12880),
   (12896, 12927), (12938, 12976), (12992, 13054), (13056, 13311), (19904, 19967), (42128, 42182),
   (42238, 42239), (42509, 42511), (42607, 42622), (42655, 42655), (42736, 42743), (42752, 42774),
   (42784, 42785), (42889, 42890), (43010, 43010), (43014, 43014), (43019, 43019), (43043, 43051),
   (43062, 43065), (43124, 43127), (43136, 43137), (43188, 43204), (43214, 43215), (43232, 43249),
   (43256, 43258), (43302, 43311), (43335, 43347), (43359, 43359), (43392, 43395), (43443, 43469),
   (43486, 43487), (43561, 43574), (43587, 43587), (43596, 43597), (43612, 43615), (43639, 43641),
   (43643, 43643), (43696, 43696), (43698, 43700), (43703, 43704), (43710, 43711), (43713, 43713),
   (43742, 43743), (43755, 43761), (43765, 43766), (44003, 44013), (64286, 64286), (64297, 64297),
   (64434, 64449), (64830, 64831), (65020, 65021), (65024, 65049), (65056, 65062), (65072, 65106),
   (65108, 65126), (65128, 65131), (65279, 65279), (65281, 65295), (65306, 65312), (65339, 65344),
   (65371, 65381), (65504, 65510), (65512, 65518), (65529, 65535), (65792, 65794), (65847, 65855),
   (65913, 65929), (65936, 65947), (66000, 66045), (66463, 66463), (66512, 66512), (67671, 67671),
   (67871, 67871), (67903, 67903), (68097, 68099), (68101, 68102), (68108, 68111), (68152, 68154),
   (68159, 68159), (68176, 68184), (68223, 68223), (68409, 68415), (69632, 69634), (69688, 69709),
   (69760, 69762), (69808, 69825), (69888, 69890), (69927, 69940), (69952, 69955), (70016, 70018),
   (70067, 70080), (70085, 70088), (71339, 71351), (74864, 74867), (94033, 94078), (94095, 94098),
   (118784, 119029), (119040, 119078), (119081, 119261), (119296, 119365), (119552, 119638),
   (120513, 120513), (120539, 120539), (120571, 120571), (120597, 120597), (120629, 120629),
   (120655, 120655), (120687, 120687), (120713, 120713), (120745, 120745), (120771, 120771),
   (126704, 126705), (126976, 127019), (127024, 127123), (127136, 127150), (127153, 127166),
   (127169, 127183), (127185, 127199), (127248, 127278), (127280, 127339), (127344, 127386),
   (127462, 127490), (127504, 127546), (127552, 127560), (127568, 127569), (127744, 127776),
   (127792, 127797), (127799, 127868), (127872, 127891), (127904, 127940), (127942, 127946),
   (127968, 127984), (128000, 128062), (128064, 128064), (128066, 128247), (128249, 128252),
   (128256, 128317), (128320, 128323), (128336, 128359), (128507, 128576), (128581, 128591),
   (128640, 128709), (128768, 128883), (917505, 917505), (917536, 917631), (917760, 917999)]

/-- A combining mark of Latin letters, which does not end a token but is dropped from it. -/
def markRanges : Text.Ranges :=
  [(768, 772), (774, 780), (783, 783), (785, 785), (795, 795), (803, 808), (813, 814), (816, 817)]

def foldShifts : Text.Shifts := [
  ⟨65, 90, 1, 97⟩, ⟨181, 181, 1, 956⟩, ⟨192, 214, 1, 224⟩, ⟨216, 222, 1, 248⟩, ⟨256, 302, 2, 257⟩,
  ⟨306, 310, 2, 307⟩, ⟨313, 327, 2, 314⟩, ⟨330, 374, 2, 331⟩, ⟨376, 376, 1, 255⟩,
  ⟨377, 381, 2, 378⟩, ⟨383, 383, 1, 115⟩, ⟨385, 385, 1, 595⟩, ⟨386, 388, 2, 387⟩,
  ⟨390, 390, 1, 596⟩, ⟨391, 391, 1, 392⟩, ⟨393, 394, 1, 598⟩, ⟨395, 395, 1, 396⟩,
  ⟨398, 398, 1, 477⟩, ⟨399, 399, 1, 601⟩, ⟨400, 400, 1, 603⟩, ⟨401, 401, 1, 402⟩,
  ⟨403, 403, 1, 608⟩, ⟨404, 404, 1, 611⟩, ⟨406, 406, 1, 617⟩, ⟨407, 407, 1, 616⟩,
  ⟨408, 408, 1, 409⟩, ⟨412, 412, 1, 623⟩, ⟨413, 413, 1, 626⟩, ⟨415, 415, 1, 629⟩,
  ⟨416, 420, 2, 417⟩, ⟨422, 422, 1, 640⟩, ⟨423, 423, 1, 424⟩, ⟨425, 425, 1, 643⟩,
  ⟨428, 428, 1, 429⟩, ⟨430, 430, 1, 648⟩, ⟨431, 431, 1, 432⟩, ⟨433, 434, 1, 650⟩,
  ⟨435, 437, 2, 436⟩, ⟨439, 439, 1, 658⟩, ⟨440, 440, 1, 441⟩, ⟨444, 444, 1, 445⟩,
  ⟨452, 452, 1, 454⟩, ⟨453, 453, 1, 454⟩, ⟨455, 455, 1, 457⟩, ⟨456, 456, 1, 457⟩,
  ⟨458, 458, 1, 460⟩, ⟨459, 475, 2, 460⟩, ⟨478, 494, 2, 479⟩, ⟨497, 497, 1, 499⟩,
  ⟨498, 500, 2, 499⟩, ⟨502, 502, 1, 405⟩, ⟨503, 503, 1, 447⟩, ⟨504, 542, 2, 505⟩,
  ⟨544, 544, 1, 414⟩, ⟨546, 562, 2, 547⟩, ⟨570, 570, 1, 11365⟩, ⟨571, 571, 1, 572⟩,
  ⟨573, 573, 1, 410⟩, ⟨574, 574, 1, 11366⟩, ⟨577, 577, 1, 578⟩, ⟨579, 579, 1, 384⟩,
  ⟨580, 580, 1, 649⟩, ⟨581, 581, 1, 652⟩, ⟨582, 590, 2, 583⟩, ⟨837, 837, 1, 953⟩,
  ⟨880, 882, 2, 881⟩, ⟨886, 886, 1, 887⟩, ⟨902, 902, 1, 940⟩, ⟨904, 906, 1, 941⟩,
  ⟨908, 908, 1, 972⟩, ⟨910, 911, 1, 973⟩, ⟨913, 929, 1, 945⟩, ⟨931, 939, 1, 963⟩,
  ⟨962, 962, 1, 963⟩, ⟨975, 975, 1, 983⟩, ⟨976, 976, 1, 946⟩, ⟨977, 977, 1, 952⟩,
  ⟨981, 981, 1, 966⟩, ⟨982, 982, 1, 960⟩, ⟨984, 1006, 2, 985⟩, ⟨1008, 1008, 1, 954⟩,
  ⟨1009, 1009, 1, 961⟩, ⟨1012, 1012, 1, 952⟩, ⟨1013, 1013, 1, 949⟩, ⟨1015, 1015, 1, 1016⟩,
  ⟨1017, 1017, 1, 1010⟩, ⟨1018, 1018, 1, 1019⟩, ⟨1021, 1023, 1, 891⟩, ⟨1024, 1039, 1, 1104⟩,
  ⟨1040, 1071, 1, 1072⟩, ⟨1120, 1152, 2, 1121⟩, ⟨1162, 1214, 2, 1163⟩, ⟨1216, 1216, 1, 1231⟩,
  ⟨1217, 1229, 2, 1218⟩, ⟨1232, 1318, 2, 1233⟩, ⟨1329, 1366, 1, 1377⟩, ⟨4256, 4293, 1, 11520⟩,
  ⟨4295, 4295, 1, 11559⟩, ⟨4301, 4301, 1, 11565⟩, ⟨7680, 7828, 2, 7681⟩, ⟨7835, 7835, 1, 7777⟩,
  ⟨7838, 7838, 1, 223⟩, ⟨7840, 7934, 2, 7841⟩, ⟨7944, 7951, 1, 7936⟩, ⟨7960, 7965, 1, 7952⟩,
  ⟨7976, 7983, 1, 7968⟩, ⟨7992, 7999, 1, 7984⟩, ⟨8008, 8013, 1, 8000⟩, ⟨8025, 8031, 2, 8017⟩,
  ⟨8040, 8047, 1, 8032⟩, ⟨8072, 8079, 1, 8064⟩, ⟨8088, 8095, 1, 8080⟩, ⟨8104, 8111, 1, 8096⟩,
  ⟨8120, 8121, 1, 8112⟩, ⟨8122, 8123, 1, 8048⟩, ⟨8124, 8124, 1, 8115⟩, ⟨8126, 8126, 1, 953⟩,
  ⟨8136, 8139, 1, 8050⟩, ⟨8140, 8140, 1, 8131⟩, ⟨8152, 8153, 1, 8144⟩, ⟨8154, 8155, 1, 8054⟩,
  ⟨8168, 8169, 1, 8160⟩, ⟨8170, 8171, 1, 8058⟩, ⟨8172, 8172, 1, 8165⟩, ⟨8184, 8185, 1, 8056⟩,
  ⟨8186, 8187, 1, 8060⟩, ⟨8188, 8188, 1, 8179⟩, ⟨8486, 8486, 1, 969⟩, ⟨8490, 8490, 1, 107⟩,
  ⟨8491, 8491, 1, 229⟩, ⟨8498, 8498, 1, 8526⟩, ⟨8544, 8559, 1, 8560⟩, ⟨8579, 8579, 1, 8580⟩,
  ⟨9398, 9423, 1, 9424⟩, ⟨11264, 11310, 1, 11312⟩, ⟨11360, 11360, 1, 11361⟩, ⟨11362, 11362, 1, 619⟩,
  ⟨11363, 11363, 1, 7549⟩, ⟨11364, 11364, 1, 637⟩, ⟨11367, 11371, 2, 11368⟩, ⟨11373, 11373, 1, 593⟩,
  ⟨11374, 11374, 1, 625⟩, ⟨11375, 11375, 1, 592⟩, ⟨11376, 11376, 1, 594⟩, ⟨11378, 11378, 1, 11379⟩,
  ⟨11381, 11381, 1, 11382⟩, ⟨11390, 11391, 1, 575⟩, ⟨11392, 11490, 2, 11393⟩,
  ⟨11499, 11501, 2, 11500⟩, ⟨11506, 11506, 1, 11507⟩, ⟨42560, 42604, 2, 42561⟩,
  ⟨42624, 42646, 2, 42625⟩, ⟨42786, 42798, 2, 42787⟩, ⟨42802, 42862, 2, 42803⟩,
  ⟨42873, 42875, 2, 42874⟩, ⟨42877, 42877, 1, 7545⟩, ⟨42878, 42886, 2, 42879⟩,
  ⟨42891, 42891, 1, 42892⟩, ⟨42893, 42893, 1, 613⟩, ⟨42896, 42898, 2, 42897⟩,
  ⟨42912, 42920, 2, 42913⟩, ⟨42922, 42922, 1, 614⟩, ⟨65313, 65338, 1, 65345⟩,
  ⟨66560, 66599, 1, 66600⟩]

/-- Ranges of Latin letters with one mark, and the letter without it. -/
def markedLetters : List (Nat × Nat × Char) :=
  [(224, 229, 'a'), (231, 231, 'c'), (232, 235, 'e'), (236, 239, 'i'), (241, 241, 'n'),
   (242, 246, 'o'), (249, 252, 'u'), (253, 253, 'y'), (255, 255, 'y'), (257, 261, 'a'),
   (263, 269, 'c'), (271, 271, 'd'), (275, 283, 'e'), (285, 291, 'g'), (293, 293, 'h'),
   (297, 304, 'i'), (309, 309, 'j'), (311, 311, 'k'), (314, 318, 'l'), (324, 328, 'n'),
   (333, 337, 'o'), (341, 345, 'r'), (347, 353, 's'), (355, 357, 't'), (361, 371, 'u'),
   (373, 373, 'w'), (375, 375, 'y'), (378, 382, 'z'), (417, 417, 'o'), (432, 432, 'u'),
   (462, 462, 'a'), (464, 464, 'i'), (466, 466, 'o'), (468, 468, 'u'), (487, 487, 'g'),
   (489, 489, 'k'), (491, 491, 'o'), (496, 496, 'j'), (501, 501, 'g'), (505, 505, 'n'),
   (513, 515, 'a'), (517, 519, 'e'), (521, 523, 'i'), (525, 527, 'o'), (529, 531, 'r'),
   (533, 535, 'u'), (537, 537, 's'), (539, 539, 't'), (543, 543, 'h'), (551, 551, 'a'),
   (553, 553, 'e'), (559, 559, 'o'), (563, 563, 'y'), (7681, 7681, 'a'), (7683, 7687, 'b'),
   (7691, 7699, 'd'), (7705, 7707, 'e'), (7711, 7711, 'f'), (7713, 7713, 'g'), (7715, 7723, 'h'),
   (7725, 7725, 'i'), (7729, 7733, 'k'), (7735, 7735, 'l'), (7739, 7741, 'l'), (7743, 7747, 'm'),
   (7749, 7755, 'n'), (7765, 7767, 'p'), (7769, 7771, 'r'), (7775, 7775, 'r'), (7777, 7779, 's'),
   (7787, 7793, 't'), (7795, 7799, 'u'), (7805, 7807, 'v'), (7809, 7817, 'w'), (7819, 7821, 'x'),
   (7823, 7823, 'y'), (7825, 7829, 'z'), (7830, 7830, 'h'), (7831, 7831, 't'), (7832, 7832, 'w'),
   (7833, 7833, 'y'), (7841, 7843, 'a'), (7865, 7869, 'e'), (7881, 7883, 'i'), (7885, 7887, 'o'),
   (7909, 7911, 'u'), (7923, 7929, 'y')]

def isSeparator (c : Char) : Bool := separatorRanges.contains c.toNat

def isMark (c : Char) : Bool := markRanges.contains c.toNat

def withoutMark (n : Nat) : Nat :=
  match markedLetters.find? fun (first, last, _) => decide (first ≤ n ∧ n ≤ last) with
  | some (_, _, base) => base.toNat
  | none => n

def foldChar (c : Char) : Char :=
  if c.toNat < 128 then c.toLower else Char.ofNat (withoutMark (foldShifts.apply c.toNat))

end ModelCatalog.TextIndex
