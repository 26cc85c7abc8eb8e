import AlertRelay.Text.CodePoints

/-!
# Combining classes

Marks of one class meet in the same place, so their order counts; marks of different classes may
change places.  All other characters have the class zero.
-/

namespace AlertRelay

/-- A run of marks of one class. -/
structure MarkRun where
  start : Nat
  count : Nat
  markClass : Nat

namespace MarkRun

/-- The runs in numbers: gap, count and class. -/
def ofNumbers (previous : Nat) : List Nat → List MarkRun
  | gap :: count :: markClass :: rest =>
      ⟨previous + gap, count, markClass⟩ :: ofNumbers (previous + gap + count) rest
  | _ => []

end MarkRun

/-- All marks of a class other than zero. -/
def markRuns : List MarkRun := MarkRun.ofNumbers 0 <| hexNumbers <|
  "300 15 e6 0 1 e8 0 4 dc 0 1 e8 0 1 d8 0 5 dc 0 2 ca 0 4 dc 0 2 ca 0 b dc 0 5 1 0 4 dc 0 8 e6 " ++
    "0 1 f0 0 1 e6 0 3 dc 0 3 e6 0 2 dc 1 3 e6 0 4 dc 0 1 e6 0 1 e8 0 2 dc 0 1 e6 0 1 e9 0 2 ea " ++
    "0 1 e9 0 2 ea 0 1 e9 0 d e6 113 5 e6 109 1 dc 0 4 e6 0 1 dc 0 3 e6 0 1 de 0 1 dc 0 6 e6 0 " ++
    "6 dc 0 2 e6 0 1 dc 0 2 e6 0 1 de 0 1 e4 0 1 e6 0 1 a 0 1 b 0 1 c 0 1 d 0 1 e 0 1 f 0 1 10 " ++
    "0 1 11 0 1 12 0 2 13 0 1 14 0 1 15 0 1 16 1 1 17 1 1 18 0 1 19 1 1 e6 0 1 dc 1 1 12 48 8 " ++
    "e6 0 1 1e 0 1 1f 0 1 20 30 1 1b 0 1 1c 0 1 1d 0 1 1e 0 1 1f 0 1 20 0 1 21 0 1 22 0 2 e6 0 " ++
    "2 dc 0 5 e6 0 1 dc 0 2 e6 0 1 dc 10 1 23 65 7 e6 2 4 e6 0 1 dc 0 1 e6 2 2 e6 1 1 dc 0 2 e6 " ++
    "0 1 dc 23 1 24 1e 1 e6 0 1 dc 0 2 e6 0 1 dc 0 2 e6 0 3 dc 0 1 e6 0 2 dc 0 1 e6 0 1 dc 0 3 " ++
    "e6 0 1 dc 0 1 e6 0 1 dc 0 1 e6 0 1 dc 0 1 e6 0 1 dc 0 2 e6 a0 7 e6 0 1 dc 0 1 e6 9 1 dc 18 " ++
    "4 e6 1 9 e6 1 3 e6 1 5 e6 2b 3 dc 3c 1 e6 0 3 dc 0 4 e6 2a 5 e6 0 5 dc 0 e e6 1 1 dc 0 2 " ++
    "e6 0 1 dc 0 2 e6 0 1 dc 0 3 e6 0 3 dc 0 1 1b 0 1 1c 0 1 1d 0 3 e6 0 1 dc 0 2 e6 0 2 dc 0 5 " ++
    "e6 3c 1 7 10 1 9 3 1 e6 0 1 dc 0 2 e6 67 1 7 10 1 9 30 1 e6 3d 1 7 10 1 9 6e 1 7 10 1 9 6e " ++
    "1 7 10 1 9 7f 1 9 6e 1 7 10 1 9 7 1 54 0 1 5b 65 1 7 10 1 9 6d 2 9 10 1 9 7c 1 9 6d 2 67 0 " ++
    "1 9 d 4 6b 6c 2 76 0 1 9 d 4 7a 4c 2 dc 1b 1 dc 1 1 dc 1 1 d8 37 1 81 0 1 82 1 1 84 5 4 82 " ++
    "2 1 82 1 2 e6 0 1 9 1 2 e6 3e 1 dc 70 1 7 1 2 9 52 1 dc 2cf 3 e6 3b4 2 9 1e 1 9 9d 1 9 a 1 " ++
    "e6 cb 1 e4 8f 1 de 0 1 e6 0 1 dc db 1 e6 0 1 dc 47 1 9 14 8 e6 2 1 dc 30 5 e6 0 6 dc 0 2 " ++
    "e6 0 1 dc 1 2 dc 0 2 e6 0 2 dc 0 5 e6 0 1 dc 0 4 e6 65 1 7 f 1 9 26 1 e6 0 1 dc 0 7 e6 36 " ++
    "2 9 3a 1 7 b 2 9 43 1 7 98 3 e6 1 1 1 0 5 dc 0 2 e6 0 4 dc 0 1 e6 1 7 1 4 1 dc 6 1 e6 3 2 " ++
    "e6 c6 2 e6 0 1 dc 0 7 e6 0 1 dc 0 2 e6 0 1 ea 0 1 d6 0 1 dc 0 1 ca 0 25 e6 0 1 e8 0 2 e4 0 " ++
    "1 dc 0 1 da 0 1 e6 0 1 e9 0 1 dc 0 1 e6 0 1 dc 2d0 2 e6 0 2 1 0 4 e6 0 3 1 0 2 e6 4 1 e6 3 " ++
    "2 1 0 1 e6 0 1 dc 0 1 e6 0 2 1 0 4 dc 0 1 e6 bfe 3 e6 8d 1 9 60 20 e6 22a 1 da 0 1 e4 0 1 " ++
    "e8 0 1 de 0 2 e0 69 2 8 75d4 1 e6 4 a e6 20 2 e6 50 2 e6 114 1 9 25 1 9 97 1 9 1b 12 e6 39 " ++
    "3 dc 25 1 9 5f 1 7 c 1 9 ef 1 e6 1 2 e6 0 1 dc 2 2 e6 5 2 e6 1 1 e6 34 1 9 f6 1 9 4f30 1 " ++
    "1a 301 7 e6 0 7 dc 0 2 e6 3cd 1 dc e2 1 dc 95 5 e6 692 1 dc 1 1 e6 28 1 e6 0 1 1 0 1 dc 4 " ++
    "1 9 a5 1 e6 0 1 dc 23d 4 e6 183 2 e6 99 2 dc 0 3 e6 0 1 dc 0 1 e6 0 4 dc 31 1 e6 0 1 dc 0 " ++
    "1 e6 0 1 dc c0 1 9 29 1 9 e 1 9 39 1 9 0 1 7 45 3 e6 30 2 9 3e 1 7 4c 1 9 9 1 7 6a 1 9 0 1 " ++
    "7 b2 1 7 0 1 9 50 2 7 10 1 9 18 7 e6 3 5 e6 cd 1 9 3 1 7 17 1 e6 63 1 9 0 1 7 fb 1 9 0 1 7 " ++
    "7e 1 9 76 1 9 0 1 7 73 1 9 10d 1 9 0 1 7 102 2 9 4 1 7 9c 1 9 53 1 9 12 1 9 51 1 9 1a5 1 9 " ++
    "102 1 7 1 2 9 51 1 9 4d58 5 1 3b 7 e6 4b9 2 6 4cac 1 1 14c6 2 d8 0 3 1 3 1 e2 0 5 d8 8 8 " ++
    "dc 2 5 e6 0 2 dc 1e 4 e6 94 3 e6 dbb 7 e6 1 11 e6 2 7 e6 1 2 e6 1 5 e6 105 7 e6 177 1 e6 " ++
    "3d 4 e6 5e0 7 dc 6d 6 e6 0 1 7"

def combiningClass (c : Char) : Nat :=
  if c.toNat < 0x300 then 0
  else
    match markRuns.find? fun run => run.start ≤ c.toNat && c.toNat < run.start + run.count with
    | some run => run.markClass
    | none => 0

end AlertRelay
