import TenantApps.Unicode.Table

/-!
# `TenantApps.Unicode.Script` — marks, joining types, directions

The character properties that label validation needs (Unicode 17).

## Contents
- `isMark`, general category `M`.
- `joinsNext`, `joinsPrevious` and `isTransparent`, joining types.
- `Direction` and `direction`, bidirectional classes.
-/

namespace TenantApps.Unicode

/-- Table of combining marks. -/
def marks : Ranges := .ofTable
    "300 70 113 7 107 2d 1 1 1 2 1 2 1 1 48 b 30 15 10 1 65 7 2 6 2 2 1 4 23 1 1e 1b 5b b 3a 9 9 1
    18 4 1 9 1 3 1 5 2b 3 3b 9 2a 18 1 21 36 3 1 12 1 7 a 2 1d 3 38 1 1 7 2 2 2 3 9 1 a 2 1a 1 2 3
    38 1 1 5 4 2 2 3 3 1 1e 2 3 1 b 3 38 1 1 8 1 3 1 3 14 2 16 6 1 3 38 1 1 7 2 2 2 3 7 3 a 2 1e 1
    3b 5 3 3 1 4 9 1 28 5 37 1 1 7 1 3 1 4 7 2 b 2 1d 3 38 1 1 7 1 3 1 4 7 2 b 2 f 1 c 4 37 2 1 7
    1 3 1 4 9 1 a 2 1d 3 46 1 4 6 1 1 1 8 12 2 3d 1 2 7 c 8 62 1 2 9 b 7 49 2 1b 1 1 1 1 1 4 2 31
    14 1 2 5 b 1 24 9 1 64 14 17 4 4 3 1 3 2 7 3 4 d c 1 1 a 4 2bf 3 3b2 4 1c 3 1d 2 1e 2 40 20 9
    1 2d 3 1 1 75 2 22 1 76 c 4 c db 5 39 a 1 1d 2 1 30 2e 2 c 14 5 2f 11 26 9 c 3 1e d 38 e 30 14
    98 3 1 15 4 1 6 1 2 3 c6 40 2d0 21 bfe 3 8d 1 60 20 22a 6 69 2 75d4 4 1 a 20 2 50 2 110 1 3 1
    4 1 17 5 4 1 53 2 32 12 1a 12 d 1 26 8 19 d 2c 4 2f e 24 1 43 e c 1 8 2 2d 3 32 1 1 3 2 2 5 2
    1 1 29 5 5 2 ec 8 1 2 4f30 1 2e1 10 10 10 3cd 1 e2 1 95 5 686 3 1 2 5 4 28 3 4 1 a5 2 23d 4 41
    5 13d 2 4d 6 46 b 31 4 7a 3 35 f 29 1 2 2 a 4 2d b 7 1 3d 3 24 e 10 2 2c 1 c 3 30 e 8 4 1 2 5c
    c 6 1 2 1 9d c 15 4 37 2 1 7 2 2 2 3 9 1 a 2 2 7 3 5 43 9 1 1 2 1 1 4 1 5 1 1 e 2 52 12 17 1
    51 14 eb 7 2 9 1b 2 52 11 6a d 65 f 100 f f5 6 1 2 2 4 1 1 1 2 8d 7 2 7 3 1 1c a 28 7 1 4 8 1
    9 b 2e 10 c6 8 c7 8 1 8 52 16 1 e 7a 6 3 1 1 2 1 7 1 1 42 5 1 2 1 5 15b 4 9 2 1 1 30 7 3 5 17
    1 14e5 1 6 f 2cc8 12 9c0 5 3b 7 418 1 1 37 7 4 51 1 b 2 4cab 2 1261 2e 2 17 21e 5 3 6 8 8 2 7
    1e 4 94 3 7bb 37 4 32 8 1 e 1 16 5 1 f 550 7 1 11 2 7 1 2 1 5 64 1 a0 7 177 1 3d 4 1fc 4 fe 2
    f3 1 2 1 7 2 5 1 1da 7 6d 7 c17b5 f0"

/-- Table of joining types `L` and `D`. -/
def joiningNext : Ranges := .ofTable
    "620 1 5 1 1 1 1 5 4 d 1 7 1 2 23 2 8 10 12 26 1 2 9 1 1 1 1 2 28 3 2 1 12 3 5 4 1 9 1 1 1 1 1
    2 1f b 3 f 2 4 1 1 2 3 2 6 4a 21 56 5 2 1 1 a 1 1 a 1 1 4 2 1 1d 1 2 5 1 1 10 a 5 2 2 6 1 f
    f3e 1 18 59 e 22 1 1 8f95 33 624d 5 8 1 5 a 1 3 a 4 91 1 1 1 3 3 1 2 1 1 2 1 1c 2 151 22 1 1
    19f 2 1 2 68 3 1 11 c 3 1c 4 2 c 2e 1 1 2 4 1 2 2 1 2 1 1 2 1 5 2 d934 44"

/-- Table of joining types `R` and `D`. -/
def joiningPrevious : Ranges := .ofTable
    "620 1 1 1e 1 a 23 2 1 3 1 5f 1 1 18 2 a 3 2 1 10 1 1 1e 1d 33 4a 21 55 19 7 1 1 4 1 4 5 13 3 1
    2 7 10 d 1 1b f3e 1 18 59 e 22 1 1 8f95 32 624e 6 1 1 1 2 3 9 1 a 2 1 6 5 90 12 17 6 152 23
    19e 3 1 2 68 15 c 4 1b 12 2e 1 1 5 1 8 1 4 4 2 d935 44"

/-- Table of joining type `T`. -/
def transparent : Ranges := .ofTable
    "ad 1 252 70 113 7 107 2d 1 1 1 2 1 2 1 1 48 b 1 1 2e 15 10 1 65 7 2 6 2 2 1 4 21 1 1 1 1e 1b
    5b b 3a 9 9 1 18 4 1 9 1 3 1 5 2b 3 3b 9 2a 18 1 20 37 1 1 1 4 8 4 1 3 7 a 2 1d 1 3a 1 4 4 8 1
    14 2 1a 1 2 2 39 1 4 2 4 2 2 3 3 1 1e 2 3 1 b 2 39 1 4 5 1 2 4 1 14 2 16 6 1 1 3a 1 2 1 1 4 8
    1 7 2 b 2 1e 1 3d 1 c 1 32 1 3 1 37 1 1 3 5 3 1 4 7 2 b 2 1d 1 3a 1 2 1 6 1 5 2 14 2 1c 2 39 2
    4 4 8 1 14 2 1d 1 48 1 7 3 1 1 5a 1 2 7 c 8 62 1 2 9 b 7 49 2 1b 1 1 1 1 1 37 e 1 5 1 2 5 b 1
    24 9 1 66 4 1 6 1 2 2 2 19 2 4 3 10 4 d 1 2 2 6 1 f 1 2bf 3 3b2 3 1d 2 1e 2 1e 2 40 2 1 7 8 1
    2 b 9 1 2d 3 1 1 75 2 22 1 76 3 4 2 9 1 6 3 db 2 2 1 3a 1 1 7 1 1 1 1 2 8 6 a 2 1 30 2e 2 c 14
    4 30 1 1 5 1 1 5 1 28 9 c 2 20 4 2 2 1 3 38 1 1 2 3 1 1 3 3a 8 2 2 98 3 1 d 1 7 4 1 6 1 3 2 c6
    40 20b 1 2 2 1a 5 31 5 5 6 60 21 bfe 3 8d 1 60 20 22a 4 6b 2 75d4 4 1 a 20 2 50 2 110 1 3 1 4
    1 19 2 5 1 97 2 1a 12 d 1 26 8 19 b 2e 3 30 1 2 4 2 2 27 1 43 6 2 2 2 2 c 1 8 1 2f 1 33 1 1 3
    2 2 5 2 1 1 2a 2 8 1 ee 1 2 1 4 1 4f30 1 2e1 10 10 10 cf 1 f9 3 201 1 e2 1 95 5 686 3 1 2 5 4
    28 3 4 1 a5 2 23d 4 41 5 13d 2 4d 6 46 b 31 4 7b 1 36 f 29 1 2 2 a 3 31 4 2 2 7 1 3d 3 24 5 1
    8 3e 1 c 2 34 9 a 4 2 1 5f 3 2 1 1 2 6 1 2 1 9d 1 3 8 15 2 39 2 3 1 25 7 3 5 46 6 d 1 1 1 1 1
    e 2 55 8 2 3 1 1 17 1 54 6 1 1 4 2 1 2 ee 4 6 2 1 2 1b 2 55 8 2 1 1 2 6a 1 1 1 2 6 1 1 65 1 1
    1 2 4 1 5 103 9 1 2 100 2 1 1 4 1 90 4 2 2 4 1 20 a 28 6 2 4 8 1 9 6 2 3 2e d 1 2 c6 1 1 3 1 1
    c9 7 1 6 1 1 52 16 2 7 1 2 1 2 7a 6 3 1 1 2 1 7 1 1 48 2 3 1 1 1 15b 2 b 2 34 5 5 1 1 1 17 1
    14d5 11 6 f 2cc8 c 3 3 9c0 5 3b 7 418 1 3f 4 51 1 4cb8 2 1 4 125c 2e 2 17 220 3 9 10 2 7 1e 4
    94 3 7bb 37 4 32 8 1 e 1 16 5 1 f 550 7 1 11 2 7 1 2 1 5 64 1 a0 7 177 1 3d 4 1fc 4 fe 2 f3 1
    2 1 7 2 5 1 1da 7 6d 8 c16b5 1 1e 60 80 f0"

/-- Table of bidirectional classes. -/
def directions : Classes := .ofTable
    "0 4; 9 6; 5 4; e 6; 5 4; f 3; a 4; 7 0; 1a 4; 6 0; 1a 4; a 6; 1 4; 24 0; 1 4; 7 3; 2 4; 1 0; 1
    4; 3 3; 1 0; 1 4; 5 0; 17 4; 1 0; 1f 4; 1 0; 1c1 4; 2 0; 7 4; e 0; 2 4; e 0; 5 4; 9 0; 1 4; 11
    5; 70 0; 4 4; 2 0; 8 4; 1 0; 5 4; 2 0; 1 4; 1 0; 6e 4; 1 0; 8c 5; 7 0; 100 4; 1 0; 2 4; 3 0; 1
    5; 2d 1; 1 5; 1 1; 1 5; 2 1; 1 5; 2 1; 1 5; 1 0; 8 1; 1b 0; 4 1; 6 0; b 2; 6 4; 2 1; 1 4; 2 1;
    1 4; 1 1; 1 4; 2 5; b 1; 30 5; 15 2; a 4; 1 2; 2 1; 3 5; 1 1; 65 5; 7 2; 1 4; 1 5; 6 1; 2 5; 2
    4; 1 5; 4 1; 2 3; a 1; 14 0; 1 1; 2 5; 1 1; 1e 5; 1b 0; 2 1; 59 5; b 1; 1 0; e 1; 2b 5; 9 1; 2
    4; 4 1; 1 0; 2 5; 1 1; 18 5; 4 1; 1 5; 9 1; 1 5; 3 1; 1 5; 5 0; 2 1; f 0; 1 1; 19 5; 3 0; 2 1;
    1 0; 1 1; b 0; 5 1; 20 2; 2 0; 5 5; 9 1; 2a 5; 18 2; 1 5; 20 0; 37 5; 1 0; 1 5; 1 0; 4 5; 8 0;
    4 5; 1 0; 3 5; 7 0; a 5; 2 0; 1d 5; 1 0; 3a 5; 1 0; 4 5; 4 0; 8 5; 1 0; 14 5; 2 0; e 4; 2 0; 7
    4; 1 0; 2 5; 1 0; 2 5; 2 0; 39 5; 1 0; 4 5; 2 0; 4 5; 2 0; 2 5; 3 0; 3 5; 1 0; 1e 5; 2 0; 3 5;
    1 0; b 5; 2 0; 39 5; 1 0; 4 5; 5 0; 1 5; 2 0; 4 5; 1 0; 14 5; 2 0; d 4; 1 0; 8 5; 6 0; 1 5; 1
    0; 3a 5; 1 0; 2 5; 1 0; 1 5; 4 0; 8 5; 1 0; 7 5; 2 0; b 5; 2 0; 1e 5; 1 0; 3d 5; 1 0; c 5; 1
    0; 25 4; 8 0; 5 5; 1 0; 3 5; 1 0; 37 5; 1 0; 1 5; 3 0; 5 5; 3 0; 1 5; 4 0; 7 5; 2 0; b 5; 2 0;
    14 4; 7 0; 2 5; 1 0; 3a 5; 1 0; f 5; 2 0; 14 5; 2 0; 1c 5; 2 0; 39 5; 2 0; 4 5; 4 0; 8 5; 1 0;
    14 5; 2 0; 1d 5; 1 0; 48 5; 1 0; 7 5; 3 0; 1 5; 1 0; 5a 5; 1 0; 2 5; 7 0; 4 4; 1 0; 7 5; 8 0;
    62 5; 1 0; 2 5; 9 0; b 5; 7 0; 49 5; 2 0; 1b 5; 1 0; 1 5; 1 0; 1 5; 1 4; 4 0; 33 5; e 0; 1 5;
    5 0; 1 5; 2 0; 5 5; b 0; 1 5; 24 0; 9 5; 1 0; 66 5; 4 0; 1 5; 6 0; 1 5; 2 0; 2 5; 2 0; 19 5; 2
    0; 4 5; 3 0; 10 5; 4 0; d 5; 1 0; 2 5; 2 0; 6 5; 1 0; f 5; 1 0; 2bf 5; 3 0; 30 4; a 0; 66 4; 1
    0; 27f 6; 1 0; 1a 4; 2 0; 75 5; 3 0; 1d 5; 2 0; 1e 5; 2 0; 1e 5; 2 0; 40 5; 2 0; 1 5; 7 0; 8
    5; 1 0; 2 5; b 0; 7 4; 1 0; 1 5; 1 0; 12 4; a 0; 6 4; b 5; 3 4; 1 5; 1 0; 75 5; 2 0; 22 5; 1
    0; 76 5; 3 0; 4 5; 2 0; 9 5; 1 0; 6 5; 3 0; 4 4; 1 0; 3 4; 2 0; 98 4; 22 0; 17 5; 2 0; 2 5; 1
    0; 3a 5; 1 0; 1 5; 7 0; 1 5; 1 0; 1 5; 1 0; 2 5; 8 0; 6 5; a 0; 2 5; 1 0; 30 5; 2e 0; 2 5; c
    0; 14 5; 4 0; 30 5; 1 0; 1 5; 5 0; 1 5; 1 0; 5 5; 1 0; 28 5; 9 0; c 5; 2 0; 20 5; 4 0; 2 5; 2
    0; 1 5; 3 0; 38 5; 1 0; 1 5; 2 0; 3 5; 1 0; 1 5; 3 0; 3a 5; 8 0; 2 5; 2 0; 98 5; 3 0; 1 5; d
    0; 1 5; 7 0; 4 5; 1 0; 6 5; 1 0; 3 5; 2 0; c6 5; 40 0; 1bd 4; 1 0; 1 4; 3 0; b 4; 3 0; d 4; 3
    0; d 4; 3 0; d 4; 2 0; 1 6; b 4; 3 0; 1 1; 1 4; 18 6; 7 4; 30 6; 1 4; 5 0; 1 6; 4 4; 6 3; 1 0;
    3 3; 6 4; 5 0; 1 3; a 4; 5 0; 11 4; 22 0; e 5; 21 0; f 4; 2 0; 1 4; 4 0; 1 4; 2 0; a 4; 1 0; 1
    4; 3 0; 5 4; 6 0; 1 4; 1 0; 1 4; 1 0; 1 4; 1 0; 4 4; 1 0; b 4; 2 0; 4 4; 5 0; 5 4; 4 0; 2 4;
    10 0; 29 4; 3 0; 4 4; 1a6 0; 45 4; 1a 0; 1 4; 94 0; 16 4; b 0; 15 4; 28 3; 14 0; 4e 4; 1c2 0;
    1 4; 153 0; 100 4; 274 0; 2 4; 8a 0; e5 4; 6 0; 4 5; 3 0; 7 4; 7 0; 7f 5; 1 0; 60 5; 20 4; 5e
    0; 22 4; 1a 0; 1 4; 59 0; c 4; d6 0; 1a 4; 10 6; 1 4; 4 0; 3 4; 19 0; 9 5; 4 0; 2 4; 1 0; 5 4;
    2 0; 5 4; 3 0; 59 5; 2 4; 2 0; 3 4; 1 0; 5a 4; 1 0; c4 4; 26 0; 9 4; 1 0; 2d 4; 2 0; 31 4; 10
    0; 1c 4; 3 0; 32 4; f 0; c 4; 4 0; a7 4; 4 0; 63 4; 2 0; 1f 4; 1 0; 19c0 4; 40 0; 5690 4; 37
    0; 146 4; 3 0; 5f 5; 4 4; 1 5; a 4; 2 0; 1e 5; 2 0; 50 5; 2 0; e 4; 22 0; 66 4; 1 0; 79 5; 1
    0; 3 5; 1 0; 4 5; 1 0; 19 5; 2 0; 1 4; 4 5; 1 0; b 4; 2 0; 3a 4; 4 0; 4c 5; 2 0; 1a 5; 12 0; d
    5; 1 0; 26 5; 8 0; 19 5; b 0; 2e 5; 3 0; 30 5; 1 0; 2 5; 4 0; 2 5; 2 0; 27 5; 1 0; 43 5; 6 0;
    2 5; 2 0; 2 5; 2 0; c 5; 1 0; 8 5; 1 0; 2f 5; 1 0; 33 5; 1 0; 1 5; 3 0; 2 5; 2 0; 5 5; 2 0; 1
    5; 1 0; 2a 5; 2 0; 8 5; 1 0; 73 4; 2 0; 79 5; 1 0; 2 5; 1 0; 4 5; 1 0; 4f2f 1; 1 5; 1 1; a 4;
    1 1; d 0; 1 1; 5 0; 1 1; 1 0; 1 1; 2 0; 1 1; 2 0; 1 1; 1f8 4; 12 1; 7f 4; 1 0; 20 1; d 4; 3 5;
    10 4; a 0; 6 5; 10 4; 23 0; 1 4; 13 0; 1 4; 4 0; 4 1; 5 0; 1 1; 87 0; 2 4; 1 0; 1 4; f 3; a 4;
    7 0; 1a 4; 6 0; 1a 4; b 0; 7a 4; 7 0; 1 4; 7 0; a 4; 5 0; 103 4; 1 0; 3e 4; 4d 0; 3 4; d 0; 3
    4; 1 0; 5c 5; 1 0; e2 5; 1 3; 1b 0; 7a 5; 5 0; 485 1; 6 0; 2 1; 1 0; 1 1; 2c 0; 1 1; 2 0; 3 1;
    1 0; 2 1; 17 0; 1 1; 48 0; 8 1; 9 0; 30 1; 13 0; 1 1; 2 0; 5 1; 21 0; 3 4; 1 1; 1a 0; 5 1; 1b
    0; 26 1; 38 0; 4 1; 14 0; 2 1; 2f 5; 3 0; 1 5; 2 0; 5 5; 4 1; 4 0; 1 1; 3 0; 1 1; 1d 0; 2 5; 3
    0; 4 5; 1 1; 9 0; 7 1; 9 0; 7 1; 40 0; 20 1; 25 5; 2 0; 4 1; c 0; 9 1; 36 0; 3 4; 7 1; 16 0; 2
    1; 1b 0; 5 1; 1a 0; 7 1; 4 0; c 1; 7 0; 50 1; 49 0; 37 1; 33 0; d 1; 33 0; 7 1; 2a 5; 4 0; 8
    2; a 0; 6 1; 26 0; 3 5; 5 1; 18 0; 8 1; 2 0; d0 2; 1f 0; 1 1; 2a 0; 1 5; 2 1; 1 0; 2 1; 2 0;
    10 1; 6 0; 8 1; 9 0; 21 5; 6 1; 28 0; 8 1; 16 5; b 1; 9 0; 16 1; 12 5; 4 1; 4 0; 26 1; 1c 0;
    14 1; 17 0; a 5; 1 0; 36 5; f 0; b 4; 14 0; a 5; 1 0; 2 5; 2 0; a 5; 3 0; 31 5; 4 0; 2 5; 2 0;
    7 5; 1 0; 3d 5; 3 0; 24 5; 5 0; 1 5; 8 0; 3e 5; 1 0; c 5; 2 0; 34 5; 9 0; a 5; 4 0; 2 5; 1 0;
    5f 5; 3 0; 2 5; 1 0; 1 5; 2 0; 6 5; 1 0; 2 5; 1 0; 9d 5; 1 0; 3 5; 8 0; 15 5; 2 0; 39 5; 2 0;
    3 5; 1 0; 25 5; 7 0; 3 5; 5 0; 46 5; 6 0; d 5; 1 0; 1 5; 1 0; 1 5; 1 0; e 5; 2 0; 55 5; 8 0; 2
    5; 3 0; 1 5; 1 0; 17 5; 1 0; 54 5; 6 0; 1 5; 1 0; 4 5; 2 0; 1 5; 2 0; ee 5; 4 0; 6 5; 2 0; 1
    5; 2 0; 1b 5; 2 0; 55 5; 8 0; 2 5; 1 0; 1 5; 2 0; 1f 4; d 0; 3e 5; 1 0; 1 5; 1 0; 2 5; 6 0; 1
    5; 1 0; 65 5; 3 0; 2 5; 4 0; 1 5; 5 0; 103 5; 9 0; 1 5; 2 0; 100 5; 2 0; 1 5; 1 0; 4 5; 1 0;
    90 5; 4 0; 2 5; 2 0; 4 5; 1 0; 20 5; 6 0; 2 5; 2 0; 28 5; 6 0; 2 5; 4 0; 8 5; 1 0; 9 5; 6 0; 2
    5; 3 0; 2e 5; d 0; 1 5; 2 0; c6 5; 1 0; 1 5; 3 0; 1 5; 1 0; c9 5; 7 0; 1 5; 6 0; 54 5; 16 0; 2
    5; 7 0; 1 5; 2 0; 1 5; 2 0; 7a 5; 6 0; 3 5; 1 0; 1 5; 2 0; 1 5; 7 0; 1 5; 1 0; 48 5; 2 0; 3 5;
    1 0; 1 5; 1 0; 15b 5; 2 0; b 5; 2 0; 34 5; 5 0; 5 5; 1 0; 1 5; 1 0; 17 5; 1 0; 7a 4; 1d 0;
    144e 5; 1 0; 6 5; f 0; 2cc8 5; c 0; 3 5; 3 0; 9c0 5; 5 0; 3b 5; 7 0; 418 5; 1 0; 3f 5; 4 0; 4f
    4; 1 0; 1 5; 1 0; 4cb8 5; 2 0; 1 4; 4 0; f5c 4; f0 3; a 4; 3 0; 3 4; 1b4 0; 6 4; 17 0; f 4; 11
    0; f 5; 2e 0; 2 5; 17 0; 220 5; 3 0; 9 4; 8 5; 8 0; 2 5; 7 0; 1e 5; 4 0; 3b 4; 2 0; 15 4; 42
    5; 3 4; 1 0; ba 4; 57 0; 384 4; 1 0; 39 4; 1 0; 39 4; 1 0; 39 4; 1 0; 39 4; 1 0; a 3; 32 0;
    200 5; 37 0; 4 5; 32 0; 8 5; 1 0; e 5; 1 0; 16 5; 5 0; 1 5; f 0; 550 5; 7 0; 1 5; 11 0; 2 5; 7
    0; 1 5; 2 0; 1 5; 5 0; 64 5; 1 0; a0 5; 7 0; 177 5; 1 0; 3d 5; 4 0; f 4; 1 0; 1ec 5; 4 0; fe
    5; 2 0; f3 5; 1 0; 2 5; 1 0; 7 5; 2 0; 5 5; 1 0; 10a 1; c5 0; 2 1; 9 5; 7 0; 29 1; 44 5; 7 1;
    1 0; 4 1; a 0; 4 1; 2 0; 311 1; 44 0; 4c 1; 3d 0; c2 1; 4 0; 1 1; 1b 0; 1 1; 2 0; 1 1; 1 0; 2
    1; 1 0; 1 1; a 0; 1 1; 4 0; 1 1; 1 0; 1 1; 1 0; 6 1; 1 0; 4 1; 1 0; 1 1; 1 0; 1 1; 1 0; 1 1; 3
    0; 1 1; 2 0; 1 1; 1 0; 2 1; 1 0; 1 1; 1 0; 1 1; 1 0; 1 1; 1 0; 1 1; 1 0; 1 1; 2 0; 1 1; 1 0; 2
    1; 4 0; 1 1; 7 0; 1 1; 4 0; 1 1; 4 0; 1 1; 1 0; 1 1; a 0; 1 1; 11 0; 5 1; 3 0; 1 1; 5 0; 1 1;
    11 0; 34 4; 2 0; 10e 4; 2c 0; 4 4; 64 0; c 4; f 0; 2 4; f 0; 1 4; f 0; 1 4; 25 0; a 3; b 4; 5
    0; 1f 4; 1 0; 3a 4; 6 0; 3d 4; 1 0; b2 4; 6 0; 9a 4; 3d9 0; 3 4; 11 0; 3 4; d 0; 3 4; da 0; 6
    4; c 0; 4 4; 1 0; f 4; c 0; 4 4; 38 0; 8 4; a 0; 6 4; 28 0; 8 4; 1e 0; 2 4; c 0; 4 4; 2 0; e
    4; 9 0; 27 4; 158 0; 8 4; e 0; 2 4; d 0; 3 4; b 0; 3 4; 39 0; 1 4; 1 0; 4 4; 10 0; 2 4; c 0; 4
    4; a 0; 7 4; 93 0; 1 4; 5c 3; a 4; 1 0; c0406 4; 1 0; 1e 4; 60 0; 80 5; f0 0"

/-- Whether a character is a combining mark. -/
def isMark (c : Char) : Bool := marks.contains c

/-- Whether a letter joins the next one. -/
def joinsNext (c : Char) : Bool := joiningNext.contains c

/-- Whether a letter joins the previous one. -/
def joinsPrevious (c : Char) : Bool := joiningPrevious.contains c

/-- Whether joining ignores a character. -/
def isTransparent (c : Char) : Bool := transparent.contains c

/-- Bidirectional classes, as far as label validation distinguishes them. -/
inductive Direction
  /-- Class `L`. -/
  | leftToRight
  /-- Classes `R` and `AL`. -/
  | rightToLeft
  /-- Class `AN`. -/
  | arabicNumber
  /-- Class `EN`. -/
  | europeanNumber
  /-- Classes `ES`, `CS`, `ET`, `ON` and `BN`. -/
  | neutral
  /-- Class `NSM`. -/
  | nonspacingMark
  /-- All other classes. -/
  | other
  deriving DecidableEq, Repr

/-- The bidirectional class of a character. -/
def direction (c : Char) : Direction :=
  match directions.find c with
  | 0 => .leftToRight
  | 1 => .rightToLeft
  | 2 => .arabicNumber
  | 3 => .europeanNumber
  | 4 => .neutral
  | 5 => .nonspacingMark
  | _ => .other

end TenantApps.Unicode
