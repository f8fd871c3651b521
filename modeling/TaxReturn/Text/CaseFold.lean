import TaxReturn.Text.CharSet

/-!
Characters that differ in case alone, by the simple case folding of Unicode 16.
-/
namespace TaxReturn.Text

/-- Distances between two characters of different case, each with the characters of lower code
point that have a partner at that distance. -/
def caseDistances : List (Nat × List String) := [
  (0x20,
    ["41-5a c0-d6 d8-de 391-3a1 3a3-3ab 410-42f ff21-ff3a 10d50-10d65 118a0-118bf 16e40-16e5f"]),
  (0x20df, ["4b"]),
  (0x12c, ["53"]),
  (0x20bf, ["6b"]),
  (0x10c, ["73"]),
  (0x2e7, ["b5"]),
  (0x307, ["b5"]),
  (0x2066, ["c5"]),
  (0x1dbf, ["df"]),
  (0x2046, ["e5"]),
  (0x79, ["ff"]),
  (0x1,
    ["100-12e/2 132-136/2 139-147/2 14a-176/2 179-17d/2 182 184 187 18b 191 198 1a0-1a4/2 1a7",
     "1ac 1af 1b3 1b5 1b8 1bc 1c4-1c5 1c7-1c8 1ca-1cb 1cd-1db/2 1de-1ee/2 1f1-1f2 1f4",
     "1f8-21e/2 222-232/2 23b 241 246-24e/2 370 372 376 3c2 3d8-3ee/2 3f7 3fa 460-480/2",
     "48a-4be/2 4c1-4cd/2 4d0-52e/2 1c84 1c89 1e00-1e94/2 1ea0-1efe/2 2183 2c60 2c67-2c6b/2",
     "2c72 2c75 2c80-2ce2/2 2ceb 2ced 2cf2 a640-a66c/2 a680-a69a/2 a722-a72e/2 a732-a76e/2",
     "a779 a77b a77e-a786/2 a78b a790 a792 a796-a7a8/2 a7b4-a7c2/2 a7c7 a7c9 a7cc a7d0",
     "a7d6-a7da/2 a7f5 fb05"]),
  (0xc3, ["180"]),
  (0xd2, ["181"]),
  (0xce, ["186"]),
  (0xcd, ["189-18a 193"]),
  (0x4f, ["18e"]),
  (0xca, ["18f"]),
  (0xcb, ["190"]),
  (0xcf, ["194"]),
  (0x61, ["195"]),
  (0xd3, ["196 19c"]),
  (0xd1, ["197"]),
  (0xa3, ["19a"]),
  (0xa641, ["19b"]),
  (0xd5, ["19d"]),
  (0x82, ["19e 37b-37d"]),
  (0xd6, ["19f"]),
  (0xda, ["1a6 1a9 1ae"]),
  (0xd9, ["1b1-1b2"]),
  (0xdb, ["1b7"]),
  (0x38, ["1bf"]),
  (0x2, ["1c4-1ca/3 1f1"]),
  (0x2a2b, ["23a"]),
  (0x2a28, ["23e"]),
  (0x2a3f, ["23f-240"]),
  (0x45, ["244"]),
  (0x47, ["245"]),
  (0x2a1f, ["250"]),
  (0x2a1c, ["251"]),
  (0x2a1e, ["252"]),
  (0xa54f, ["25c"]),
  (0xa54b, ["261"]),
  (0xa567, ["264"]),
  (0xa528, ["265"]),
  (0xa544, ["266 26a"]),
  (0x29f7, ["26b"]),
  (0xa541, ["26c"]),
  (0x29fd, ["271"]),
  (0x29e7, ["27d"]),
  (0xa543, ["282"]),
  (0xa52a, ["287"]),
  (0xa515, ["29d"]),
  (0xa512, ["29e"]),
  (0x54, ["345"]),
  (0x74, ["345 37f"]),
  (0x1c79, ["345"]),
  (0x26, ["386"]),
  (0x25, ["388-38a"]),
  (0x40, ["38c 3b5 10c80-10cb2"]),
  (0x3f, ["38e-38f"]),
  (0x1c43, ["390"]),
  (0x3e, ["392"]),
  (0x60, ["395"]),
  (0x39, ["398"]),
  (0x5c, ["398"]),
  (0x1c25, ["399"]),
  (0x56, ["39a 1f72-1f75"]),
  (0x36, ["3a0 3ba"]),
  (0x50, ["3a1 400-40f"]),
  (0x1f, ["3a3"]),
  (0x2f, ["3a6"]),
  (0x1d7d, ["3a9"]),
  (0x1c33, ["3b0"]),
  (0x1e, ["3b2"]),
  (0x19, ["3b8"]),
  (0x3c, ["3b8"]),
  (0x1c05, ["3b9"]),
  (0x16, ["3c0"]),
  (0x30, ["3c1 531-556 2c00-2c2f a794"]),
  (0xf, ["3c6 4c0"]),
  (0x1d5d, ["3c9"]),
  (0x8,
    ["3cf 13f0-13f5 1f00-1f07 1f10-1f15 1f20-1f27 1f30-1f37 1f40-1f45 1f51-1f57/2 1f60-1f67",
     "1f80-1f87 1f90-1f97 1fa0-1fa7 1fb0-1fb1 1fd0-1fd1 1fe0-1fe1"]),
  (0x23, ["3d1"]),
  (0x7, ["3f2 1fe5"]),
  (0x186e, ["412"]),
  (0x186d, ["414"]),
  (0x1864, ["41e"]),
  (0x1862, ["421-422"]),
  (0x1863, ["422"]),
  (0x185c, ["42a"]),
  (0x184e, ["432"]),
  (0x184d, ["434"]),
  (0x1844, ["43e"]),
  (0x1842, ["441-442"]),
  (0x1843, ["442"]),
  (0x183c, ["44a"]),
  (0x1825, ["462"]),
  (0x1824, ["463"]),
  (0x1c60, ["10a0-10c5 10c7 10cd"]),
  (0xbc0, ["10d0-10fa 10fd-10ff"]),
  (0x97d0, ["13a0-13ef"]),
  (0x89c2, ["1c88"]),
  (0x89c3, ["1c88"]),
  (0x8a04, ["1d79"]),
  (0xee6, ["1d7d"]),
  (0x8a38, ["1d8e"]),
  (0x3b, ["1e60"]),
  (0x3a, ["1e61"]),
  (0x4a, ["1f70-1f71"]),
  (0x64, ["1f76-1f77"]),
  (0x80, ["1f78-1f79"]),
  (0x70, ["1f7a-1f7b"]),
  (0x7e, ["1f7c-1f7d"]),
  (0x9, ["1fb3 1fc3 1ff3"]),
  (0x1c, ["2132"]),
  (0x10, ["2160-216f"]),
  (0x1a, ["24b6-24cf"]),
  (0x3a0, ["a7b3"]),
  (0x28, ["10400-10427 104b0-104d3"]),
  (0x27, ["10570-1057a 1057c-1058a 1058c-10592 10594-10595"]),
  (0x22, ["1e900-1e921"])]

/-- Pairs of code points that differ in case. -/
def casePairs : Array (Nat × Nat) :=
  (caseDistances.flatMap fun row =>
    (CharSet.ofText row.2).ranges.flatMap fun r =>
      (List.range (r.2 + 1 - r.1)).map fun k => (r.1 + k, r.1 + k + row.1)).toArray

/-- The partners that a set gains from some pairs. -/
def CharSet.partners (a : CharSet) (pairs : Array (Nat × Nat)) : List (Nat × Nat) :=
  let index := a.index
  let has := fun (n : Nat) => CharSet.holds index n 0 index.size
  pairs.foldl (fun gained p =>
    let gained := if has p.1 then (p.2, p.2) :: gained else gained
    if has p.2 then (p.1, p.1) :: gained else gained) []

/-- The set with every character that differs in case from one of its own. -/
def CharSet.anyCase (a : CharSet) : CharSet := .ofRanges (a.partners casePairs ++ a.ranges)

/-- The ASCII letters in pairs. -/
def asciiCasePairs : Array (Nat × Nat) :=
  ((List.range 26).map fun k => ('A'.toNat + k, 'a'.toNat + k)).toArray

def CharSet.anyAsciiCase (a : CharSet) : CharSet :=
  .ofRanges (a.partners asciiCasePairs ++ a.ranges)

end TaxReturn.Text
