import AlertRelay.Text.CodePoints

/-!
# Lower case

Each upper-case letter maps to its lower-case letter; the dotted capital I keeps its dot as a
separate character, and the capital sigma maps to its final form at the end of a word.
-/

namespace AlertRelay

/-- A run of letters, `step` apart, whose lower-case letters lie at one distance. -/
structure CaseRun where
  start : Nat
  count : Nat
  step : Nat
  distance : Int

namespace CaseRun

/-- The runs in words: start, count, step and signed distance. -/
def ofWords : List String → List CaseRun
  | start :: count :: step :: distance :: rest =>
      let digits := distance.toList
      let size : Int := hexNumber digits
      { start := hexNumber start.toList
        count := hexNumber count.toList
        step := hexNumber step.toList
        distance := if digits.head? = some '-' then -size else size } :: ofWords rest
  | _ => []

/-- The runs of a written table. -/
def ofText (text : String) : List CaseRun := ofWords (text.splitOn " ")

def contains (run : CaseRun) (code : Nat) : Bool :=
  run.start ≤ code && code < run.start + run.count * run.step &&
    (code - run.start) % run.step == 0

end CaseRun

/-- The letters that have one lower-case letter. -/
def caseRuns : List CaseRun := CaseRun.ofText <|
  "41 1a 1 20 c0 17 1 20 d8 7 1 20 100 18 2 1 132 3 2 1 139 8 2 1 14a 17 2 1 178 1 1 -79 " ++
    "179 3 2 1 181 1 1 d2 182 2 2 1 186 1 1 ce 187 1 1 1 189 2 1 cd 18b 1 1 1 18e 1 1 4f 18f " ++
    "1 1 ca 190 1 1 cb 191 1 1 1 193 1 1 cd 194 1 1 cf 196 1 1 d3 197 1 1 d1 198 1 1 1 19c 1 " ++
    "1 d3 19d 1 1 d5 19f 1 1 d6 1a0 3 2 1 1a6 1 1 da 1a7 1 1 1 1a9 1 1 da 1ac 1 1 1 1ae 1 1 " ++
    "da 1af 1 1 1 1b1 2 1 d9 1b3 2 2 1 1b7 1 1 db 1b8 1 1 1 1bc 1 1 1 1c4 1 1 2 1c5 1 1 1 1c7 " ++
    "1 1 2 1c8 1 1 1 1ca 1 1 2 1cb 9 2 1 1de 9 2 1 1f1 1 1 2 1f2 2 2 1 1f6 1 1 -61 1f7 1 1 " ++
    "-38 1f8 14 2 1 220 1 1 -82 222 9 2 1 23a 1 1 2a2b 23b 1 1 1 23d 1 1 -a3 23e 1 1 2a28 241 " ++
    "1 1 1 243 1 1 -c3 244 1 1 45 245 1 1 47 246 5 2 1 370 2 2 1 376 1 1 1 37f 1 1 74 386 1 1 " ++
    "26 388 3 1 25 38c 1 1 40 38e 2 1 3f 391 11 1 20 3a3 9 1 20 3cf 1 1 8 3d8 c 2 1 3f4 1 1 " ++
    "-3c 3f7 1 1 1 3f9 1 1 -7 3fa 1 1 1 3fd 3 1 -82 400 10 1 50 410 20 1 20 460 11 2 1 48a 1b " ++
    "2 1 4c0 1 1 f 4c1 7 2 1 4d0 30 2 1 531 26 1 30 10a0 26 1 1c60 10c7 1 1 1c60 10cd 1 1 " ++
    "1c60 13a0 50 1 97d0 13f0 6 1 8 1c90 2b 1 -bc0 1cbd 3 1 -bc0 1e00 4b 2 1 1e9e 1 1 -1dbf " ++
    "1ea0 30 2 1 1f08 8 1 -8 1f18 6 1 -8 1f28 8 1 -8 1f38 8 1 -8 1f48 6 1 -8 1f59 4 2 -8 1f68 " ++
    "8 1 -8 1f88 8 1 -8 1f98 8 1 -8 1fa8 8 1 -8 1fb8 2 1 -8 1fba 2 1 -4a 1fbc 1 1 -9 1fc8 4 1 " ++
    "-56 1fcc 1 1 -9 1fd8 2 1 -8 1fda 2 1 -64 1fe8 2 1 -8 1fea 2 1 -70 1fec 1 1 -7 1ff8 2 1 " ++
    "-80 1ffa 2 1 -7e 1ffc 1 1 -9 2126 1 1 -1d5d 212a 1 1 -20bf 212b 1 1 -2046 2132 1 1 1c " ++
    "2160 10 1 10 2183 1 1 1 24b6 1a 1 1a 2c00 30 1 30 2c60 1 1 1 2c62 1 1 -29f7 2c63 1 1 " ++
    "-ee6 2c64 1 1 -29e7 2c67 3 2 1 2c6d 1 1 -2a1c 2c6e 1 1 -29fd 2c6f 1 1 -2a1f 2c70 1 1 " ++
    "-2a1e 2c72 1 1 1 2c75 1 1 1 2c7e 2 1 -2a3f 2c80 32 2 1 2ceb 2 2 1 2cf2 1 1 1 a640 17 2 1 " ++
    "a680 e 2 1 a722 7 2 1 a732 1f 2 1 a779 2 2 1 a77d 1 1 -8a04 a77e 5 2 1 a78b 1 1 1 a78d 1 " ++
    "1 -a528 a790 2 2 1 a796 a 2 1 a7aa 1 1 -a544 a7ab 1 1 -a54f a7ac 1 1 -a54b a7ad 1 1 " ++
    "-a541 a7ae 1 1 -a544 a7b0 1 1 -a512 a7b1 1 1 -a52a a7b2 1 1 -a515 a7b3 1 1 3a0 a7b4 8 2 " ++
    "1 a7c4 1 1 -30 a7c5 1 1 -a543 a7c6 1 1 -8a38 a7c7 2 2 1 a7d0 1 1 1 a7d6 2 2 1 a7f5 1 1 1 " ++
    "ff21 1a 1 20 10400 28 1 28 104b0 24 1 28 10570 b 1 27 1057c f 1 27 1058c 7 1 27 10594 2 " ++
    "1 27 10c80 33 1 40 118a0 20 1 20 16e40 20 1 20 1e900 22 1 22"

/-- Letters with case. -/
def casedLetters : CodePoints := CodePoints.ofText <|
  "41 1a 6 1a 2f 1 a 1 4 1 5 17 1 1f 1 c3 1 4 4 d0 1 1b c0 4 2 2 3 3 1 1 6 1 1 3 1 1 1 14 1 " ++
    "53 1 8b 8 a6 1 26 9 29 b17 26 1 1 5 1 2 2b 2 3 2a0 56 2 6 882 9 7 2b 2 3 40 2c 3f d 1 22 " ++
    "65 116 2 6 2 26 2 6 2 8 1 1 1 1 1 1 1 1f 2 35 1 7 1 1 3 3 1 7 3 4 2 6 4 d 5 3 1 7 105 1 " ++
    "4 1 2 a 1 1 3 5 6 1 1 1 1 1 1 4 1 6 4 1 2 4 5 5 4 1 11 20 3 2 331 34 716 7c 2 67 6 4 3 2 " ++
    "c 26 1 1 5 1 7912 2e 12 1c 86 4e 1 17 3 4 1 3b 5 2 1 1 1 5 1b 2 3 1 335 2b 5 9 7 50 4f40 " ++
    "7 c 5 409 1a 6 1a 4a5 50 60 24 4 24 74 b 1 f 1 7 1 2 1 b 1 f 1 7 1 2 6c3 33 d 33 bad 40 " ++
    "5560 40 6580 55 1 47 1 2 2 1 2 2 2 4 1 c 1 1 1 7 1 41 1 4 2 8 1 7 1 1c 1 4 1 5 1 1 3 7 1 " ++
    "154 2 19 1 19 1 1f 1 19 1 1f 1 19 1 1f 1 19 1 1f 1 19 1 8 734 a 1 14 9e1 44 7ec 1a 6 1a " ++
    "6 1a"

/-- Characters that are passed over in the search for the neighbouring letter. -/
def caseIgnorable : CodePoints := CodePoints.ofText <|
  "27 1 6 1 b 1 23 1 1 1 47 1 4 1 1 1 4 1 2 2 1f7 c0 4 2 4 1 9 2 1 1 fb 7 cf 1 5 1 31 2d 1 " ++
    "1 1 2 1 2 1 1 2c 1 b 6 a b 1 1 23 1 a 15 10 1 65 8 1 a 1 4 21 1 1 1 1e 1b 5b b 3a b 4 1 " ++
    "2 1 18 18 2b 3 2c 1 7 2 6 8 29 3a 37 1 1 1 4 8 4 1 3 7 a 2 d 1 f 1 3a 1 4 4 8 1 14 2 1a " ++
    "1 2 2 39 1 4 2 4 2 2 3 3 1 1e 2 3 1 b 2 39 1 4 5 1 2 4 1 14 2 16 6 1 1 3a 1 2 1 1 4 8 1 " ++
    "7 2 b 2 1e 1 3d 1 c 1 32 1 3 1 37 1 1 3 5 3 1 4 7 2 b 2 1d 1 3a 1 2 1 6 1 5 2 14 2 1c 2 " ++
    "39 2 4 4 8 1 14 2 1d 1 48 1 7 3 1 1 5a 1 2 7 b 9 62 1 2 9 9 1 1 6 4a 2 1b 1 1 1 1 1 37 e " ++
    "1 5 1 2 5 b 1 24 9 1 66 4 1 6 1 2 2 2 19 2 4 3 10 4 d 1 2 2 6 1 f 1 5e 1 260 3 3b2 3 1d " ++
    "2 1e 2 1e 2 40 2 1 7 8 1 2 b 3 1 5 1 2d 5 33 1 41 2 22 1 76 3 4 2 9 1 6 3 db 2 2 1 3a 1 " ++
    "1 7 1 1 1 1 2 8 6 a 2 1 27 1 8 1f 31 4 30 1 1 5 1 1 5 1 28 9 c 2 20 4 2 2 1 3 38 1 1 2 3 " ++
    "1 1 3 3a 8 2 2 40 6 52 3 1 d 1 7 4 1 6 1 3 2 32 3f d 1 22 65 1bd 1 1 3 b 3 d 3 d 3 d 2 c " ++
    "5 8 2 a 1 2 1 2 5 31 5 1 a 1 1 d 1 10 d 33 21 b8b 2 71 3 7d 1 f 1 60 20 2f 1 1d5 1 24 4 " ++
    "3 5 5 1 5d 6 5d 3 6f16 1 4e2 6 10e 1 62 4 1 a 1 1 1c 4 50 2 e 22 4e 1 17 3 67 3 3 2 8 1 " ++
    "3 1 4 1 19 2 5 1 97 2 1a 12 d 1 26 8 19 b 2e 3 30 1 2 4 2 2 11 1 15 2 42 6 2 2 2 2 c 1 8 " ++
    "1 23 1 b 1 33 1 1 3 2 2 5 2 1 1 1b 1 e 2 5 2 1 1 64 5 9 3 79 1 2 1 4 1 4f30 1 93 11 23d " ++
    "10 3 1 c 10 22 1 2 1 a9 1 7 1 6 1 b 1 23 1 1 1 2f 1 2d 2 43 1 15 3 201 1 e2 1 95 5 405 6 " ++
    "1 2a 1 9 246 3 1 2 5 4 28 3 4 1 a5 2 23d 4 183 2 99 b 31 4 7b 1 36 f 29 1 2 2 a 3 31 4 2 " ++
    "2 2 1 4 1 a 1 32 3 24 5 1 8 3e 1 c 2 34 9 a 4 2 1 5f 3 2 1 1 2 6 1 a0 1 3 8 15 2 39 2 3 " ++
    "1 25 7 3 5 c3 8 2 3 1 1 17 1 54 6 1 1 4 2 1 2 ee 4 6 2 1 2 1b 2 55 8 2 1 1 2 6a 1 1 1 2 " ++
    "6 1 1 65 3 2 4 1 5 103 9 1 2 100 2 1 1 4 1 90 4 2 2 4 1 20 a 28 6 2 4 8 1 9 6 2 3 2e d 1 " ++
    "2 196 7 1 6 1 1 52 16 2 7 1 2 1 2 7a 6 3 1 1 2 1 7 1 1 48 2 3 1 1 1 15b 2 153b 9 36b7 5 " ++
    "3b 7 9 4 40b 1 3f 11 40 2 1 2 400b 4 1 7 1 2 c9e 2 1 4 125c 2e 2 17 220 3 9 10 2 7 1e 4 " ++
    "94 3 7bb 37 4 32 8 1 e 1 16 5 1 f 550 7 1 11 2 7 1 2 1 5 105 e 170 1 3d 4 5e0 7 6d 8 aaf " ++
    "5 c0c01 1 1e 60 80 f0"

def lowerChar (c : Char) : List Char :=
  if c.toNat < 0x80 then [c.toLower]
  else if c.toNat = 0x130 then ['i', Char.ofNat 0x307]
  else
    match caseRuns.find? (·.contains c.toNat) with
    | some run => [Char.ofNat ((c.toNat : Int) + run.distance).toNat]
    | none => [c]

/-- Whether the nearest character that is not passed over is a letter with case. -/
def meetsCasedLetter (text : List Char) : Bool :=
  match text.dropWhile caseIgnorable.contains with
  | c :: _ => casedLetters.contains c
  | [] => false

/-- The lower-case form of the rest of a text, given the part before it in reverse. -/
def lowerAfter (before : List Char) : List Char → List Char
  | [] => []
  | c :: rest =>
      let lower :=
        if c.toNat = 0x3a3 then
          if meetsCasedLetter before && !meetsCasedLetter rest then [Char.ofNat 0x3c2]
          else [Char.ofNat 0x3c3]
        else lowerChar c
      lower ++ lowerAfter (c :: before) rest

def lowercase (text : String) : String := String.ofList (lowerAfter [] text.toList)

end AlertRelay
