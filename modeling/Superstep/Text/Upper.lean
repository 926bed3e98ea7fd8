/-!
# Upper case

The full upper-case mapping of Unicode: most characters map to one character, found in
`upperRuns`; a few map to two or three (`ß` to `SS`), listed in `upperSpecial`. The mapping
does not depend on the surrounding text.
-/

namespace Superstep

namespace Text

/-- Runs of characters with a one-character upper case: `(first, count, step, shift)` covers
the code points `first + step * i` for `i < count`, each mapped to itself plus `shift`. -/
def upperRuns : List (Nat × Nat × Nat × Int) := [
  (97, 26, 1, (-32)), (181, 1, 1, 743), (224, 23, 1, (-32)), (248, 7, 1, (-32)), (255, 1, 1, 121),
  (257, 24, 2, (-1)), (305, 1, 1, (-232)), (307, 3, 2, (-1)), (314, 8, 2, (-1)), (331, 23, 2, (-1)),
  (378, 3, 2, (-1)), (383, 1, 1, (-300)), (384, 1, 1, 195), (387, 2, 2, (-1)), (392, 1, 1, (-1)),
  (396, 1, 1, (-1)), (402, 1, 1, (-1)), (405, 1, 1, 97), (409, 1, 1, (-1)), (410, 1, 1, 163),
  (411, 1, 1, 42561), (414, 1, 1, 130), (417, 3, 2, (-1)), (424, 1, 1, (-1)), (429, 1, 1, (-1)),
  (432, 1, 1, (-1)), (436, 2, 2, (-1)), (441, 1, 1, (-1)), (445, 1, 1, (-1)), (447, 1, 1, 56),
  (453, 1, 1, (-1)), (454, 1, 1, (-2)), (456, 1, 1, (-1)), (457, 1, 1, (-2)), (459, 1, 1, (-1)),
  (460, 1, 1, (-2)), (462, 8, 2, (-1)), (477, 1, 1, (-79)), (479, 9, 2, (-1)), (498, 1, 1, (-1)),
  (499, 1, 1, (-2)), (501, 1, 1, (-1)), (505, 20, 2, (-1)), (547, 9, 2, (-1)), (572, 1, 1, (-1)),
  (575, 2, 1, 10815), (578, 1, 1, (-1)), (583, 5, 2, (-1)), (592, 1, 1, 10783), (593, 1, 1, 10780),
  (594, 1, 1, 10782), (595, 1, 1, (-210)), (596, 1, 1, (-206)), (598, 2, 1, (-205)),
  (601, 1, 1, (-202)), (603, 1, 1, (-203)), (604, 1, 1, 42319), (608, 1, 1, (-205)),
  (609, 1, 1, 42315), (611, 1, 1, (-207)), (612, 1, 1, 42343), (613, 1, 1, 42280),
  (614, 1, 1, 42308), (616, 1, 1, (-209)), (617, 1, 1, (-211)), (618, 1, 1, 42308),
  (619, 1, 1, 10743), (620, 1, 1, 42305), (623, 1, 1, (-211)), (625, 1, 1, 10749),
  (626, 1, 1, (-213)), (629, 1, 1, (-214)), (637, 1, 1, 10727), (640, 1, 1, (-218)),
  (642, 1, 1, 42307), (643, 1, 1, (-218)), (647, 1, 1, 42282), (648, 1, 1, (-218)),
  (649, 1, 1, (-69)), (650, 2, 1, (-217)), (652, 1, 1, (-71)), (658, 1, 1, (-219)),
  (669, 1, 1, 42261), (670, 1, 1, 42258), (837, 1, 1, 84), (881, 2, 2, (-1)), (887, 1, 1, (-1)),
  (891, 3, 1, 130), (940, 1, 1, (-38)), (941, 3, 1, (-37)), (945, 17, 1, (-32)), (962, 1, 1, (-31)),
  (963, 9, 1, (-32)), (972, 1, 1, (-64)), (973, 2, 1, (-63)), (976, 1, 1, (-62)),
  (977, 1, 1, (-57)), (981, 1, 1, (-47)), (982, 1, 1, (-54)), (983, 1, 1, (-8)), (985, 12, 2, (-1)),
  (1008, 1, 1, (-86)), (1009, 1, 1, (-80)), (1010, 1, 1, 7), (1011, 1, 1, (-116)),
  (1013, 1, 1, (-96)), (1016, 1, 1, (-1)), (1019, 1, 1, (-1)), (1072, 32, 1, (-32)),
  (1104, 16, 1, (-80)), (1121, 17, 2, (-1)), (1163, 27, 2, (-1)), (1218, 7, 2, (-1)),
  (1231, 1, 1, (-15)), (1233, 48, 2, (-1)), (1377, 38, 1, (-48)), (4304, 43, 1, 3008),
  (4349, 3, 1, 3008), (5112, 6, 1, (-8)), (7296, 1, 1, (-6254)), (7297, 1, 1, (-6253)),
  (7298, 1, 1, (-6244)), (7299, 2, 1, (-6242)), (7301, 1, 1, (-6243)), (7302, 1, 1, (-6236)),
  (7303, 1, 1, (-6181)), (7304, 1, 1, 35266), (7306, 1, 1, (-1)), (7545, 1, 1, 35332),
  (7549, 1, 1, 3814), (7566, 1, 1, 35384), (7681, 75, 2, (-1)), (7835, 1, 1, (-59)),
  (7841, 48, 2, (-1)), (7936, 8, 1, 8), (7952, 6, 1, 8), (7968, 8, 1, 8), (7984, 8, 1, 8),
  (8000, 6, 1, 8), (8017, 4, 2, 8), (8032, 8, 1, 8), (8048, 2, 1, 74), (8050, 4, 1, 86),
  (8054, 2, 1, 100), (8056, 2, 1, 128), (8058, 2, 1, 112), (8060, 2, 1, 126), (8112, 2, 1, 8),
  (8126, 1, 1, (-7205)), (8144, 2, 1, 8), (8160, 2, 1, 8), (8165, 1, 1, 7), (8526, 1, 1, (-28)),
  (8560, 16, 1, (-16)), (8580, 1, 1, (-1)), (9424, 26, 1, (-26)), (11312, 48, 1, (-48)),
  (11361, 1, 1, (-1)), (11365, 1, 1, (-10795)), (11366, 1, 1, (-10792)), (11368, 3, 2, (-1)),
  (11379, 1, 1, (-1)), (11382, 1, 1, (-1)), (11393, 50, 2, (-1)), (11500, 2, 2, (-1)),
  (11507, 1, 1, (-1)), (11520, 38, 1, (-7264)), (11559, 1, 1, (-7264)), (11565, 1, 1, (-7264)),
  (42561, 23, 2, (-1)), (42625, 14, 2, (-1)), (42787, 7, 2, (-1)), (42803, 31, 2, (-1)),
  (42874, 2, 2, (-1)), (42879, 5, 2, (-1)), (42892, 1, 1, (-1)), (42897, 2, 2, (-1)),
  (42900, 1, 1, 48), (42903, 10, 2, (-1)), (42933, 8, 2, (-1)), (42952, 2, 2, (-1)),
  (42957, 1, 1, (-1)), (42961, 1, 1, (-1)), (42967, 3, 2, (-1)), (42998, 1, 1, (-1)),
  (43859, 1, 1, (-928)), (43888, 80, 1, (-38864)), (65345, 26, 1, (-32)), (66600, 40, 1, (-40)),
  (66776, 36, 1, (-40)), (66967, 11, 1, (-39)), (66979, 15, 1, (-39)), (66995, 7, 1, (-39)),
  (67003, 2, 1, (-39)), (68800, 51, 1, (-64)), (68976, 22, 1, (-32)), (71872, 32, 1, (-32)),
  (93792, 32, 1, (-32)), (125218, 34, 1, (-34)), (42959, 1, 1, (-1)),
  (42963, 1, 1, (-1)), (42965, 1, 1, (-1)), (93883, 25, 1, (-27))]

/-- The characters whose upper case is more than one character. -/
def upperSpecial : List (Nat × List Nat) := [
  (223, [83, 83]), (329, [700, 78]), (496, [74, 780]), (912, [921, 776, 769]),
  (944, [933, 776, 769]), (1415, [1333, 1362]), (7830, [72, 817]), (7831, [84, 776]),
  (7832, [87, 778]), (7833, [89, 778]), (7834, [65, 702]), (8016, [933, 787]),
  (8018, [933, 787, 768]), (8020, [933, 787, 769]), (8022, [933, 787, 834]), (8064, [7944, 921]),
  (8065, [7945, 921]), (8066, [7946, 921]), (8067, [7947, 921]), (8068, [7948, 921]),
  (8069, [7949, 921]), (8070, [7950, 921]), (8071, [7951, 921]), (8072, [7944, 921]),
  (8073, [7945, 921]), (8074, [7946, 921]), (8075, [7947, 921]), (8076, [7948, 921]),
  (8077, [7949, 921]), (8078, [7950, 921]), (8079, [7951, 921]), (8080, [7976, 921]),
  (8081, [7977, 921]), (8082, [7978, 921]), (8083, [7979, 921]), (8084, [7980, 921]),
  (8085, [7981, 921]), (8086, [7982, 921]), (8087, [7983, 921]), (8088, [7976, 921]),
  (8089, [7977, 921]), (8090, [7978, 921]), (8091, [7979, 921]), (8092, [7980, 921]),
  (8093, [7981, 921]), (8094, [7982, 921]), (8095, [7983, 921]), (8096, [8040, 921]),
  (8097, [8041, 921]), (8098, [8042, 921]), (8099, [8043, 921]), (8100, [8044, 921]),
  (8101, [8045, 921]), (8102, [8046, 921]), (8103, [8047, 921]), (8104, [8040, 921]),
  (8105, [8041, 921]), (8106, [8042, 921]), (8107, [8043, 921]), (8108, [8044, 921]),
  (8109, [8045, 921]), (8110, [8046, 921]), (8111, [8047, 921]), (8114, [8122, 921]),
  (8115, [913, 921]), (8116, [902, 921]), (8118, [913, 834]), (8119, [913, 834, 921]),
  (8124, [913, 921]), (8130, [8138, 921]), (8131, [919, 921]), (8132, [905, 921]),
  (8134, [919, 834]), (8135, [919, 834, 921]), (8140, [919, 921]), (8146, [921, 776, 768]),
  (8147, [921, 776, 769]), (8150, [921, 834]), (8151, [921, 776, 834]), (8162, [933, 776, 768]),
  (8163, [933, 776, 769]), (8164, [929, 787]), (8166, [933, 834]), (8167, [933, 776, 834]),
  (8178, [8186, 921]), (8179, [937, 921]), (8180, [911, 921]), (8182, [937, 834]),
  (8183, [937, 834, 921]), (8188, [937, 921]), (64256, [70, 70]), (64257, [70, 73]),
  (64258, [70, 76]), (64259, [70, 70, 73]), (64260, [70, 70, 76]), (64261, [83, 84]),
  (64262, [83, 84]), (64275, [1348, 1350]), (64276, [1348, 1333]), (64277, [1348, 1339]),
  (64278, [1358, 1350]), (64279, [1348, 1341])]

/-- The shift of a code point inside a run, if it is one of the run's code points. -/
def runShift (n : Nat) : Nat × Nat × Nat × Int → Option Int
  | (first, count, step, shift) =>
    if first ≤ n ∧ n < first + step * count ∧ (n - first) % step = 0 then some shift else none

/-- The upper case of a character. -/
def upperChar (c : Char) : List Char :=
  let n := c.toNat
  match upperSpecial.find? (·.1 == n) with
  | some (_, us) => us.map Char.ofNat
  | none =>
    match upperRuns.findSome? (runShift n) with
    | some shift => [Char.ofNat ((n : Int) + shift).toNat]
    | none => [c]

/-- The upper case of a text, character by character. -/
def toUpper (s : String) : String := String.ofList (s.toList.flatMap upperChar)

end Text

end Superstep
