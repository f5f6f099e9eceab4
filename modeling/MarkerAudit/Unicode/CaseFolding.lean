import MarkerAudit.CharSet

/-!
# Simple case folding

Characters that differ only in case form small groups. Most groups are pairs at a fixed distance; the
few larger ones are listed. Characters whose folding is more than one character long are in no group.
-/

namespace MarkerAudit.Unicode.CaseFolding

/-- The smaller members of the pairs, by the distance to the greater member. -/
def pairs : List (Nat × CharSet) := [
  (0x1, .ofText
      ["100-12E/2 132-136/2 139-147/2 14A-176/2 179-17D/2 182-184/2 187 18B 191 198 1A0-1A4/2",
       "1A7 1AC 1AF 1B3-1B5/2 1B8 1BC 1CD-1DB/2 1DE-1EE/2 1F4 1F8-21E/2 222-232/2 23B 241",
       "246-24E/2 370-372/2 376 3D8-3EE/2 3F7 3FA 460 464-480/2 48A-4BE/2 4C1-4CD/2 4D0-52E/2",
       "1C89 1E00-1E5E/2 1E62-1E94/2 1EA0-1EFE/2 2183 2C60 2C67-2C6B/2 2C72 2C75 2C80-2CE2/2",
       "2CEB-2CED/2 2CF2 A640-A648/2 A64C-A66C/2 A680-A69A/2 A722-A72E/2 A732-A76E/2 A779-A77B/2",
       "A77E-A786/2 A78B A790-A792/2 A796-A7A8/2 A7B4-A7C2/2 A7C7-A7C9/2 A7CC A7D0 A7D6-A7DA/2",
       "A7F5 FB05"]),
  (0x7, .ofText
      ["3F2 1FE5"]),
  (0x8, .ofText
      ["3CF 13F0-13F5 1F00-1F07 1F10-1F15 1F20-1F27 1F30-1F37 1F40-1F45 1F51-1F57/2 1F60-1F67",
       "1F80-1F87 1F90-1F97 1FA0-1FA7 1FB0-1FB1 1FD0-1FD1 1FE0-1FE1"]),
  (0x9, .ofText
      ["1FB3 1FC3 1FF3"]),
  (0xF, .ofText
      ["4C0"]),
  (0x10, .ofText
      ["2160-216F"]),
  (0x1A, .ofText
      ["24B6-24CF"]),
  (0x1C, .ofText
      ["2132"]),
  (0x20, .ofText
      ["41-4A 4C-5A/2 4D-51/2 55-59/2 C0-DE/2 C1-C3/2 C7-D5/2 D9-DD/2 391-393/2 394-396/2 397",
       "39B-39F/2 39E 3A4-3A5 3A7-3A8 3AA-3AB 410-411 413-41F/2 416-41C/2 420 423-429 42B-42F",
       "FF21-FF3A 10D50-10D65 118A0-118BF 16E40-16E5F"]),
  (0x22, .ofText
      ["1E900-1E921"]),
  (0x25, .ofText
      ["388-38A"]),
  (0x26, .ofText
      ["386"]),
  (0x27, .ofText
      ["10570-10594/2 10571-10579/2 1057D-10589/2 1058D-10591/2 10595"]),
  (0x28, .ofText
      ["10400-10427 104B0-104D3"]),
  (0x30, .ofText
      ["531-556 2C00-2C2F A794"]),
  (0x38, .ofText
      ["1BF"]),
  (0x3F, .ofText
      ["38E-38F"]),
  (0x40, .ofText
      ["38C 10C80-10CB2"]),
  (0x45, .ofText
      ["244"]),
  (0x47, .ofText
      ["245"]),
  (0x4A, .ofText
      ["1F70-1F71"]),
  (0x4F, .ofText
      ["18E"]),
  (0x50, .ofText
      ["400-40F"]),
  (0x56, .ofText
      ["1F72-1F75"]),
  (0x61, .ofText
      ["195"]),
  (0x64, .ofText
      ["1F76-1F77"]),
  (0x70, .ofText
      ["1F7A-1F7B"]),
  (0x74, .ofText
      ["37F"]),
  (0x79, .ofText
      ["FF"]),
  (0x7E, .ofText
      ["1F7C-1F7D"]),
  (0x80, .ofText
      ["1F78-1F79"]),
  (0x82, .ofText
      ["19E 37B-37D"]),
  (0xA3, .ofText
      ["19A"]),
  (0xC3, .ofText
      ["180"]),
  (0xCA, .ofText
      ["18F"]),
  (0xCB, .ofText
      ["190"]),
  (0xCD, .ofText
      ["189-18A 193"]),
  (0xCE, .ofText
      ["186"]),
  (0xCF, .ofText
      ["194"]),
  (0xD1, .ofText
      ["197"]),
  (0xD2, .ofText
      ["181"]),
  (0xD3, .ofText
      ["196 19C"]),
  (0xD5, .ofText
      ["19D"]),
  (0xD6, .ofText
      ["19F"]),
  (0xD9, .ofText
      ["1B1-1B2"]),
  (0xDA, .ofText
      ["1A6 1A9 1AE"]),
  (0xDB, .ofText
      ["1B7"]),
  (0x3A0, .ofText
      ["A7B3"]),
  (0xBC0, .ofText
      ["10D0-10FA 10FD-10FF"]),
  (0xEE6, .ofText
      ["1D7D"]),
  (0x1C33, .ofText
      ["3B0"]),
  (0x1C43, .ofText
      ["390"]),
  (0x1C60, .ofText
      ["10A0-10C5 10C7 10CD"]),
  (0x1DBF, .ofText
      ["DF"]),
  (0x29E7, .ofText
      ["27D"]),
  (0x29F7, .ofText
      ["26B"]),
  (0x29FD, .ofText
      ["271"]),
  (0x2A1C, .ofText
      ["251"]),
  (0x2A1E, .ofText
      ["252"]),
  (0x2A1F, .ofText
      ["250"]),
  (0x2A28, .ofText
      ["23E"]),
  (0x2A2B, .ofText
      ["23A"]),
  (0x2A3F, .ofText
      ["23F-240"]),
  (0x8A04, .ofText
      ["1D79"]),
  (0x8A38, .ofText
      ["1D8E"]),
  (0x97D0, .ofText
      ["13A0-13EF"]),
  (0xA512, .ofText
      ["29E"]),
  (0xA515, .ofText
      ["29D"]),
  (0xA528, .ofText
      ["265"]),
  (0xA52A, .ofText
      ["287"]),
  (0xA541, .ofText
      ["26C"]),
  (0xA543, .ofText
      ["282"]),
  (0xA544, .ofText
      ["266 26A"]),
  (0xA54B, .ofText
      ["261"]),
  (0xA54F, .ofText
      ["25C"]),
  (0xA567, .ofText
      ["264"]),
  (0xA641, .ofText
      ["19B"])]

/-- The groups of more than two members. -/
def groups : List (List Nat) := [
  [0x4B, 0x6B, 0x212A],
  [0x53, 0x73, 0x17F],
  [0xB5, 0x39C, 0x3BC],
  [0xC5, 0xE5, 0x212B],
  [0x1C4, 0x1C5, 0x1C6],
  [0x1C7, 0x1C8, 0x1C9],
  [0x1CA, 0x1CB, 0x1CC],
  [0x1F1, 0x1F2, 0x1F3],
  [0x345, 0x399, 0x3B9, 0x1FBE],
  [0x392, 0x3B2, 0x3D0],
  [0x395, 0x3B5, 0x3F5],
  [0x398, 0x3B8, 0x3D1, 0x3F4],
  [0x39A, 0x3BA, 0x3F0],
  [0x3A0, 0x3C0, 0x3D6],
  [0x3A1, 0x3C1, 0x3F1],
  [0x3A3, 0x3C2, 0x3C3],
  [0x3A6, 0x3C6, 0x3D5],
  [0x3A9, 0x3C9, 0x2126],
  [0x412, 0x432, 0x1C80],
  [0x414, 0x434, 0x1C81],
  [0x41E, 0x43E, 0x1C82],
  [0x421, 0x441, 0x1C83],
  [0x422, 0x442, 0x1C84, 0x1C85],
  [0x42A, 0x44A, 0x1C86],
  [0x462, 0x463, 0x1C87],
  [0x1C88, 0xA64A, 0xA64B],
  [0x1E60, 0x1E61, 0x1E9B]]

/-- The parts of two sets' common ranges. -/
def overlaps (s t : CharSet) : List CodeRange :=
  s.ranges.flatMap fun a => t.ranges.filterMap fun b =>
    let r : CodeRange := ⟨max a.lo b.lo, min a.hi b.hi⟩
    if r.lo ≤ r.hi then some r else none

/-- The set together with everything that differs from a member only in case. -/
def close (s : CharSet) : CharSet :=
  let greater := pairs.flatMap fun (d, smaller) =>
    (overlaps s smaller).map fun r => ⟨r.lo + d, r.hi + d⟩
  let smaller := pairs.flatMap fun (d, smaller) =>
    let shifted : CharSet := ⟨smaller.ranges.map fun r => ⟨r.lo + d, r.hi + d⟩⟩
    (overlaps s shifted).map fun r => ⟨r.lo - d, r.hi - d⟩
  let grouped := (groups.filter fun g => g.any s.hasCode).flatMap fun g => g.map fun n => ⟨n, n⟩
  .ofRanges (s.ranges ++ greater ++ smaller ++ grouped)

end MarkerAudit.Unicode.CaseFolding
