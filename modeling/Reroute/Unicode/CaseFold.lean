/-
  Reroute.Unicode.CaseFold — simple case folding of Unicode 17.

  Characters that fold to one character form a case class.  Nearly all classes are pairs at a
  fixed distance and stand in `pairs`; the few larger ones stand in `clusters`.  `caseVariants c`
  lists the members of the class of `c` other than `c` itself.
-/
import Reroute.Unicode.Basic
import Reroute.Unicode.Ranges

namespace Reroute.Unicode.CaseFold

/-- Pairs of a case class: each character of `lower` goes with the one `distance` further on. -/
structure Pairs where
  distance : Nat
  lower : Ranges

/-! ## §1. Tables -/

/-- The classes of two characters, by the distance of the two. -/
def pairs : List Pairs := [
  { distance := 0x1
    lower := .ofLines [
      "100-12E/2 132-136/2 139-147/2 14A-176/2 179-17D/2 182 184 187 18B 191 198 1A0-1A4/2",
      "1A7 1AC 1AF 1B3 1B5 1B8 1BC 1CD-1DB/2 1DE-1EE/2 1F4 1F8-21E/2 222-232/2 23B 241",
      "246-24E/2 370 372 376 3D8-3EE/2 3F7 3FA 460 464-480/2 48A-4BE/2 4C1-4CD/2 4D0-52E/2",
      "1C89 1E00-1E5E/2 1E62-1E94/2 1EA0-1EFE/2 2183 2C60 2C67-2C6B/2 2C72 2C75 2C80-2CE2/2",
      "2CEB 2CED 2CF2 A640-A648/2 A64C-A66C/2 A680-A69A/2 A722-A72E/2 A732-A76E/2 A779 A77B",
      "A77E-A786/2 A78B A790 A792 A796-A7A8/2 A7B4-A7C2/2 A7C7 A7C9 A7CC-A7DA/2 A7F5 FB05"] },
  { distance := 0x7
    lower := .ofLines [
      "3F2 1FE5"] },
  { distance := 0x8
    lower := .ofLines [
      "3CF 13F0-13F5 1F00-1F07 1F10-1F15 1F20-1F27 1F30-1F37 1F40-1F45 1F51-1F57/2",
      "1F60-1F67 1F80-1F87 1F90-1F97 1FA0-1FA7 1FB0-1FB1 1FD0-1FD1 1FE0-1FE1"] },
  { distance := 0x9
    lower := .ofLines [
      "1FB3 1FC3 1FF3"] },
  { distance := 0xF
    lower := .ofLines [
      "4C0"] },
  { distance := 0x10
    lower := .ofLines [
      "2160-216F"] },
  { distance := 0x1A
    lower := .ofLines [
      "24B6-24CF"] },
  { distance := 0x1B
    lower := .ofLines [
      "16EA0-16EB8"] },
  { distance := 0x1C
    lower := .ofLines [
      "2132"] },
  { distance := 0x20
    lower := .ofLines [
      "41-4A 4C-52 54-5A C0-C4 C6-D6 D8-DE 391 393-394 396-397 39B 39D-39F 3A4-3A5 3A7-3A8",
      "3AA-3AB 410-411 413 415-41D 41F-420 423-429 42B-42F FF21-FF3A 10D50-10D65",
      "118A0-118BF 16E40-16E5F"] },
  { distance := 0x22
    lower := .ofLines [
      "1E900-1E921"] },
  { distance := 0x25
    lower := .ofLines [
      "388-38A"] },
  { distance := 0x26
    lower := .ofLines [
      "386"] },
  { distance := 0x27
    lower := .ofLines [
      "10570-1057A 1057C-1058A 1058C-10592 10594-10595"] },
  { distance := 0x28
    lower := .ofLines [
      "10400-10427 104B0-104D3"] },
  { distance := 0x30
    lower := .ofLines [
      "531-556 2C00-2C2F A794"] },
  { distance := 0x38
    lower := .ofLines [
      "1BF"] },
  { distance := 0x3F
    lower := .ofLines [
      "38E-38F"] },
  { distance := 0x40
    lower := .ofLines [
      "38C 10C80-10CB2"] },
  { distance := 0x45
    lower := .ofLines [
      "244"] },
  { distance := 0x47
    lower := .ofLines [
      "245"] },
  { distance := 0x4A
    lower := .ofLines [
      "1F70-1F71"] },
  { distance := 0x4F
    lower := .ofLines [
      "18E"] },
  { distance := 0x50
    lower := .ofLines [
      "400-40F"] },
  { distance := 0x56
    lower := .ofLines [
      "1F72-1F75"] },
  { distance := 0x61
    lower := .ofLines [
      "195"] },
  { distance := 0x64
    lower := .ofLines [
      "1F76-1F77"] },
  { distance := 0x70
    lower := .ofLines [
      "1F7A-1F7B"] },
  { distance := 0x74
    lower := .ofLines [
      "37F"] },
  { distance := 0x79
    lower := .ofLines [
      "FF"] },
  { distance := 0x7E
    lower := .ofLines [
      "1F7C-1F7D"] },
  { distance := 0x80
    lower := .ofLines [
      "1F78-1F79"] },
  { distance := 0x82
    lower := .ofLines [
      "19E 37B-37D"] },
  { distance := 0xA3
    lower := .ofLines [
      "19A"] },
  { distance := 0xC3
    lower := .ofLines [
      "180"] },
  { distance := 0xCA
    lower := .ofLines [
      "18F"] },
  { distance := 0xCB
    lower := .ofLines [
      "190"] },
  { distance := 0xCD
    lower := .ofLines [
      "189-18A 193"] },
  { distance := 0xCE
    lower := .ofLines [
      "186"] },
  { distance := 0xCF
    lower := .ofLines [
      "194"] },
  { distance := 0xD1
    lower := .ofLines [
      "197"] },
  { distance := 0xD2
    lower := .ofLines [
      "181"] },
  { distance := 0xD3
    lower := .ofLines [
      "196 19C"] },
  { distance := 0xD5
    lower := .ofLines [
      "19D"] },
  { distance := 0xD6
    lower := .ofLines [
      "19F"] },
  { distance := 0xD9
    lower := .ofLines [
      "1B1-1B2"] },
  { distance := 0xDA
    lower := .ofLines [
      "1A6 1A9 1AE"] },
  { distance := 0xDB
    lower := .ofLines [
      "1B7"] },
  { distance := 0x3A0
    lower := .ofLines [
      "A7B3"] },
  { distance := 0xBC0
    lower := .ofLines [
      "10D0-10FA 10FD-10FF"] },
  { distance := 0xEE6
    lower := .ofLines [
      "1D7D"] },
  { distance := 0x1C33
    lower := .ofLines [
      "3B0"] },
  { distance := 0x1C43
    lower := .ofLines [
      "390"] },
  { distance := 0x1C60
    lower := .ofLines [
      "10A0-10C5 10C7 10CD"] },
  { distance := 0x1DBF
    lower := .ofLines [
      "DF"] },
  { distance := 0x29E7
    lower := .ofLines [
      "27D"] },
  { distance := 0x29F7
    lower := .ofLines [
      "26B"] },
  { distance := 0x29FD
    lower := .ofLines [
      "271"] },
  { distance := 0x2A1C
    lower := .ofLines [
      "251"] },
  { distance := 0x2A1E
    lower := .ofLines [
      "252"] },
  { distance := 0x2A1F
    lower := .ofLines [
      "250"] },
  { distance := 0x2A28
    lower := .ofLines [
      "23E"] },
  { distance := 0x2A2B
    lower := .ofLines [
      "23A"] },
  { distance := 0x2A3F
    lower := .ofLines [
      "23F-240"] },
  { distance := 0x8A04
    lower := .ofLines [
      "1D79"] },
  { distance := 0x8A38
    lower := .ofLines [
      "1D8E"] },
  { distance := 0x97D0
    lower := .ofLines [
      "13A0-13EF"] },
  { distance := 0xA512
    lower := .ofLines [
      "29E"] },
  { distance := 0xA515
    lower := .ofLines [
      "29D"] },
  { distance := 0xA528
    lower := .ofLines [
      "265"] },
  { distance := 0xA52A
    lower := .ofLines [
      "287"] },
  { distance := 0xA541
    lower := .ofLines [
      "26C"] },
  { distance := 0xA543
    lower := .ofLines [
      "282"] },
  { distance := 0xA544
    lower := .ofLines [
      "266 26A"] },
  { distance := 0xA54B
    lower := .ofLines [
      "261"] },
  { distance := 0xA54F
    lower := .ofLines [
      "25C"] },
  { distance := 0xA567
    lower := .ofLines [
      "264"] },
  { distance := 0xA641
    lower := .ofLines [
      "19B"] }]

/-- The classes of more than two characters. -/
def clusters : List (List Nat) := [
  [0x4B, 0x6B, 0x212A],
  [0x53, 0x73, 0x17F],
  [0xB5, 0x39C, 0x3BC],
  [0xC5, 0xE5, 0x212B],
  [0x1C4, 0x1C5, 0x1C6],
  [0x1C7, 0x1C8, 0x1C9],
  [0x1CA, 0x1CB, 0x1CC],
  [0x1F1, 0x1F2, 0x1F3],
  [0x345, 0x399, 0x3B9, 0x1FBE],
  [0x392, 0x3B2, 0x3D0],
  [0x395, 0x3B5, 0x3F5],
  [0x398, 0x3B8, 0x3D1, 0x3F4],
  [0x39A, 0x3BA, 0x3F0],
  [0x3A0, 0x3C0, 0x3D6],
  [0x3A1, 0x3C1, 0x3F1],
  [0x3A3, 0x3C2, 0x3C3],
  [0x3A6, 0x3C6, 0x3D5],
  [0x3A9, 0x3C9, 0x2126],
  [0x412, 0x432, 0x1C80],
  [0x414, 0x434, 0x1C81],
  [0x41E, 0x43E, 0x1C82],
  [0x421, 0x441, 0x1C83],
  [0x422, 0x442, 0x1C84, 0x1C85],
  [0x42A, 0x44A, 0x1C86],
  [0x462, 0x463, 0x1C87],
  [0x1C88, 0xA64A, 0xA64B],
  [0x1E60, 0x1E61, 0x1E9B]]

/-! ## §2. Case classes -/

/-- The code points that differ from the given one by case only, by the tables. -/
def tableVariants (code : Nat) : List Nat :=
  match clusters.find? (·.contains code) with
  | some cluster => cluster.filter (· ≠ code)
  | none => pairs.flatMap fun p =>
    (if p.lower.covers code then [code + p.distance] else []) ++
    (if p.distance ≤ code && p.lower.covers (code - p.distance) then [code - p.distance] else [])

/-- The characters that differ from `c` by case only.  Basic Latin takes a short way: of its
    letters only `k` and `s` have a variant outside of it. -/
def caseVariants (c : Char) : List Char :=
  if isBasic c then
    if !isBasicLetter c then []
    else if c = 'k' ∨ c = 'K' then [swapBasicCase c, Char.ofNat 0x212A]
    else if c = 's' ∨ c = 'S' then [swapBasicCase c, Char.ofNat 0x17F]
    else [swapBasicCase c]
  else (tableVariants c.toNat).map Char.ofNat

/-- The other case of a basic Latin letter, and nothing for any other character. -/
def basicVariants (c : Char) : List Char :=
  if isBasicLetter c then [swapBasicCase c] else []

end Reroute.Unicode.CaseFold
