import ChatRelay.Unicode.CodeSet

/-!
Properties of characters on which the rules of domain labels rest: marks, the way letters join,
and writing direction.
-/

namespace ChatRelay.Unicode

def marks : CodeSet := .ofGaps [
    "768 112 275 7 263 45 1 1 1 2 1 2 1 1 72 11 48 21 16 1 101 7 2 6 2 2 1 4 35 1 30 27 91 11 58",
    "9 9 1 24 4 1 9 1 3 1 5 43 3 60 8 42 24 1 33 54 3 1 18 1 7 10 2 29 3 56 1 1 7 2 2 2 3 9 1 10",
    "2 26 1 2 3 56 1 1 5 4 2 2 3 3 1 30 2 3 1 11 3 56 1 1 8 1 3 1 3 20 2 22 6 1 3 56 1 1 7 2 2 2",
    "3 7 3 10 2 30 1 59 5 3 3 1 4 9 1 40 5 55 1 1 7 1 3 1 4 7 2 11 2 29 3 56 1 1 7 1 3 1 4 7 2 11",
    "2 15 1 12 4 55 2 1 7 1 3 1 4 9 1 10 2 29 3 70 1 4 6 1 1 1 8 18 2 61 1 2 7 12 8 98 1 2 9 11 7",
    "73 2 27 1 1 1 1 1 4 2 49 20 1 2 5 11 1 36 9 1 100 20 23 4 4 3 1 3 2 7 3 4 13 12 1 1 10 4 703",
    "3 946 4 28 3 29 2 30 2 64 32 9 1 45 3 1 1 117 2 34 1 118 12 4 12 219 5 57 10 1 29 2 1 48 31",
    "49 5 47 17 38 9 12 3 30 13 56 14 48 20 152 3 1 21 4 1 6 1 2 3 198 64 720 33 3070 3 141 1 96",
    "32 554 6 105 2 30164 4 1 10 32 2 80 2 272 1 3 1 4 1 23 5 4 1 83 2 50 18 26 18 13 1 38 8 25",
    "13 44 4 47 14 36 1 67 14 12 1 8 2 45 3 50 1 1 3 2 2 5 2 1 1 41 5 5 2 236 8 1 2 20272 1 737",
    "16 16 16 973 1 226 1 149 5 1670 3 1 2 5 4 40 3 4 1 165 2 573 4 387 2 80 3 70 11 49 4 122 3",
    "53 15 41 1 2 2 10 4 45 11 7 1 61 3 36 14 16 2 44 1 12 3 48 14 8 4 1 2 92 12 6 1 2 1 157 12",
    "21 4 55 2 1 7 2 2 2 3 9 1 10 2 2 7 3 5 192 18 23 1 81 20 235 7 2 9 27 2 82 17 106 13 101 15",
    "256 15 245 6 1 2 2 4 1 1 1 2 141 7 2 7 3 1 28 10 40 7 1 4 8 1 9 11 46 16 405 8 1 8 82 22 1",
    "14 122 6 3 1 1 2 1 7 1 1 66 5 1 2 1 5 347 4 9 2 1 1 48 7 3 5 5373 1 6 15 13978 5 59 7 1048 1",
    "1 55 7 4 81 1 11 2 19627 2 4705 46 2 23 542 5 3 6 8 8 2 7 30 4 148 3 1979 55 4 50 8 1 14 1",
    "22 5 1 15 1360 7 1 17 2 7 1 2 1 5 100 1 160 7 375 1 61 4 508 4 992 7 109 7 792501 240"]

def viramas : CodeSet := .ofGaps [
    "2381 1 127 1 127 1 127 1 127 1 127 1 127 1 127 1 109 2 16 1 124 1 111 1 127 1 201 1 180 2",
    "1753 2 30 1 157 1 653 1 227 1 101 2 70 2 4491 1 31366 1 37 1 151 1 142 1 108 1 309 1 246 1",
    "24145 1 1542 1 41 1 14 1 57 1 121 2 139 1 116 1 180 1 98 1 244 1 127 1 252 1 127 1 118 1 116",
    "1 269 1 259 2 161 1 83 1 18 1 81 1 421 1 260 2 81 1 425 2"]

def joinsLeft : CodeSet := .ofGaps [
    "1568 1 5 1 1 1 1 5 4 13 1 7 1 2 35 2 8 16 18 38 1 2 9 1 1 1 1 2 40 3 2 1 18 3 5 4 1 9 1 1 1",
    "1 1 2 31 11 3 15 2 4 1 1 2 3 2 6 74 33 86 5 2 1 1 10 1 1 10 1 1 4 2 1 29 1 2 5 18 10 5 2 2 6",
    "1 15 3902 1 24 89 14 34 1 1 36757 51 25165 5 8 1 5 10 1 3 10 4 145 1 1 1 3 3 1 2 1 1 2 1 28",
    "2 337 34 1 1 524 3 1 17 12 3 28 4 2 12 46 1 1 2 4 1 2 2 1 2 1 1 2 1 5 2 55604 68"]

def joinsRight : CodeSet := .ofGaps [
    "1568 1 1 30 1 10 35 2 1 3 1 95 1 1 24 2 10 3 2 1 16 1 1 30 29 51 74 33 85 25 7 1 1 4 1 4 5",
    "19 3 1 2 6 17 13 1 27 3902 1 24 89 14 34 1 1 36757 50 25166 6 1 1 1 2 3 9 1 10 2 1 6 5 144",
    "18 23 6 338 35 524 21 12 4 27 18 46 1 1 5 1 8 1 4 4 2 55605 68"]

def transparent : CodeSet := .ofGaps [
    "173 1 594 112 275 7 263 45 1 1 1 2 1 2 1 1 72 11 1 1 46 21 16 1 101 7 2 6 2 2 1 4 33 1 1 1",
    "30 27 91 11 58 9 9 1 24 4 1 9 1 3 1 5 43 3 60 8 42 24 1 32 55 1 1 1 4 8 4 1 3 7 10 2 29 1 58",
    "1 4 4 8 1 20 2 26 1 2 2 57 1 4 2 4 2 2 3 3 1 30 2 3 1 11 2 57 1 4 5 1 2 4 1 20 2 22 6 1 1 58",
    "1 2 1 1 4 8 1 7 2 11 2 30 1 61 1 12 1 50 1 3 1 55 1 1 3 5 3 1 4 7 2 11 2 29 1 58 1 2 1 6 1 5",
    "2 20 2 28 2 57 2 4 4 8 1 20 2 29 1 72 1 7 3 1 1 90 1 2 7 12 8 98 1 2 9 11 7 73 2 27 1 1 1 1",
    "1 55 14 1 5 1 2 5 11 1 36 9 1 102 4 1 6 1 2 2 2 25 2 4 3 16 4 13 1 2 2 6 1 15 1 703 3 946 3",
    "29 2 30 2 30 2 64 2 1 7 8 1 2 11 9 1 45 3 1 1 117 2 34 1 118 3 4 2 9 1 6 3 219 2 2 1 58 1 1",
    "7 1 1 1 1 2 8 6 10 2 1 48 31 49 4 48 1 1 5 1 1 5 1 40 9 12 2 32 4 2 2 1 3 56 1 1 2 3 1 1 3",
    "58 8 2 2 152 3 1 13 1 7 4 1 6 1 3 2 198 64 523 1 2 2 26 5 49 5 5 6 96 33 3070 3 141 1 96 32",
    "554 4 107 2 30164 4 1 10 32 2 80 2 272 1 3 1 4 1 25 2 5 1 151 2 26 18 13 1 38 8 25 11 46 3",
    "48 1 2 4 2 2 39 1 67 6 2 2 2 2 12 1 8 1 47 1 51 1 1 3 2 2 5 2 1 1 42 2 8 1 238 1 2 1 4 1",
    "20272 1 737 16 16 16 207 1 249 3 513 1 226 1 149 5 1670 3 1 2 5 4 40 3 4 1 165 2 573 4 387 2",
    "80 3 70 11 49 4 123 1 54 15 41 1 2 2 10 3 49 4 2 2 7 1 61 3 36 5 1 8 62 1 12 2 52 9 10 4 2 1",
    "95 3 2 1 1 2 6 1 2 1 157 1 3 8 21 2 57 2 3 1 37 7 3 5 195 8 2 3 1 1 23 1 84 6 1 1 4 2 1 2",
    "238 4 6 2 1 2 27 2 85 8 2 1 1 2 106 1 1 1 2 6 1 1 101 3 2 4 1 5 259 9 1 2 256 2 1 1 4 1 144",
    "4 2 2 4 1 32 10 40 6 2 4 8 1 9 6 2 3 46 13 1 2 406 7 1 6 1 1 82 22 2 7 1 2 1 2 122 6 3 1 1 2",
    "1 7 1 1 72 2 3 1 1 1 347 2 11 2 52 5 5 1 1 1 5357 17 6 15 13978 5 59 7 1048 1 63 4 81 1",
    "19640 2 1 4 4700 46 2 23 544 3 9 16 2 7 30 4 148 3 1979 55 4 50 8 1 14 1 22 5 1 15 1360 7 1",
    "17 2 7 1 2 1 5 100 1 160 7 375 1 61 4 508 4 992 7 109 8 792245 1 30 96 128 240"]

def directionLeft : CodeSet := .ofGaps [
    "65 26 6 26 47 1 10 1 4 1 5 23 1 31 1 449 2 7 14 2 14 5 9 1 129 4 2 8 1 5 2 1 1 110 1 140 7",
    "256 1 2 886 55 1 1 1 4 8 4 1 3 7 10 2 29 1 58 1 4 4 8 1 20 2 14 2 7 1 2 1 2 2 57 1 4 2 4 2 2",
    "3 3 1 30 2 3 1 11 2 57 1 4 5 1 2 4 1 20 2 13 1 8 6 1 1 58 1 2 1 1 4 8 1 7 2 11 2 30 1 61 1",
    "12 1 37 8 5 1 3 1 55 1 1 3 5 3 1 4 7 2 11 2 20 7 2 1 58 1 15 2 20 2 28 2 57 2 4 4 8 1 20 2",
    "29 1 72 1 7 3 1 1 90 1 2 7 4 1 7 8 98 1 2 9 11 7 73 2 27 1 1 1 1 5 51 14 1 5 1 2 5 11 1 36 9",
    "1 102 4 1 6 1 2 2 2 25 2 4 3 16 4 13 1 2 2 6 1 15 1 703 3 48 10 102 1 639 1 26 2 117 3 29 2",
    "30 2 30 2 64 2 1 7 8 1 2 11 7 1 1 1 18 10 6 16 117 2 34 1 118 3 4 2 9 1 6 3 4 1 3 2 152 34",
    "23 2 2 1 58 1 1 7 1 1 1 1 2 8 6 10 2 1 48 31 49 4 48 1 1 5 1 1 5 1 40 9 12 2 32 4 2 2 1 3 56",
    "1 1 2 3 1 1 3 58 8 2 2 152 3 1 13 1 7 4 1 6 1 3 2 198 64 445 1 1 3 11 3 13 3 13 3 13 2 1 14",
    "1 98 3 11 1 15 17 81 15 2 1 4 1 2 10 1 1 3 5 6 1 1 1 1 1 1 4 1 11 2 4 5 5 4 2 16 41 3 4 422",
    "69 26 1 145 25 11 21 60 78 450 1 339 256 628 2 32 1 105 229 6 4 3 7 7 127 1 96 126 34 26 1",
    "89 12 214 26 12 4 5 3 25 9 4 2 1 5 2 5 3 89 4 3 1 90 1 196 36 57 2 49 16 28 3 50 15 12 4 167",
    "4 99 2 31 1 6592 64 22160 55 326 3 95 17 30 2 80 2 14 34 102 1 121 1 3 1 4 1 25 2 1 5 11 2",
    "58 4 76 2 26 18 13 1 38 8 25 11 46 3 48 1 2 4 2 2 39 1 67 6 2 2 2 2 12 1 8 1 47 1 51 1 1 3 2",
    "2 5 2 1 1 42 2 8 1 115 2 121 1 2 1 4 1 20271 765 6 51 1 19 1 4 4 144 1 32 26 6 26 11 122 7 1",
    "7 1 16 257 1 62 77 3 13 3 1 92 1 226 28 122 5 1157 2048 1 1 54 15 11 20 10 1 2 2 10 3 49 4 2",
    "2 7 1 61 3 36 5 1 8 62 1 12 2 52 9 10 4 2 1 95 3 2 1 1 2 6 1 2 1 157 1 3 8 21 2 57 2 3 1 37",
    "7 3 5 195 8 2 3 1 1 23 1 84 6 1 1 4 2 1 2 238 4 6 2 1 2 27 2 85 8 2 1 1 2 31 13 62 1 1 1 2 6",
    "1 1 101 3 2 4 1 5 259 9 1 2 256 2 1 1 4 1 144 4 2 2 4 1 32 6 2 2 40 6 2 4 8 1 9 6 2 3 46 13",
    "1 2 406 7 1 6 84 22 2 7 1 2 1 2 122 6 3 1 1 2 1 7 1 1 72 2 3 1 1 1 347 2 11 2 52 5 5 1 1 1",
    "146 29 5198 1 6 15 13978 5 59 7 1048 1 63 4 79 1 1 1 19640 2 1 4 4700 46 2 23 544 3 9 16 2 7",
    "30 4 59 2 21 70 186 87 900 1 57 1 57 1 57 1 57 1 10 50 512 55 4 50 8 1 14 1 22 5 1 15 1360 7",
    "1 17 2 7 1 2 1 5 100 1 160 7 375 1 61 4 15 1 492 4 784 2092 4 100 12 15 2 15 1 15 1 37 10 16",
    "31 1 58 6 61 1 178 6 154 984 4 17 3 13 3 119 4 95 6 12 4 1 15 12 4 56 8 10 6 40 8 30 2 2 78",
    "340 12 14 2 13 3 9 7 46 1 7 8 14 4 9 7 9 7 147 1 55 37 10 1028 2 65534 2 65534 2 65534 2",
    "65534 2 65534 2 65534 2 65534 2 65534 2 65534 2 65534 2 65534 2 65534 4098 61438 2 65534 2",
    "65534"]

def directionRight : CodeSet := .ofGaps [
    "1424 1 45 1 1 1 2 1 2 1 1 56 8 1 2 1 1 1 13 48 34 3 1 101 15 2 7 2 10 23 1 30 27 91 11 58 9",
    "2 4 3 1 24 4 1 9 1 3 1 5 43 3 52 2 6 8 42 5957 1 56077 1 1 10 1 532 18 127 33 13 115 143",
    "2305 287 1 225 3 1 2 5 4 40 3 4 1 165 2 82 7 484 4 8 10 294 31 44 2 80 3 70 11 49 4 122",
    "55296 208 7 109 7 1445 2 270"]

def arabicNumber : CodeSet := .ofGaps [
    "1536 6 90 10 1 2 112 1 434 2 80 1 66637 10 294 31"]

def europeanNumber : CodeSet := .ofGaps [
    "48 10 120 2 5 1 1590 10 6518 1 3 6 6 10 1022 20 55924 10 967 27 54482 50 6400 11 2789 10"]

def nonspacing : CodeSet := .ofGaps [
    "768 112 275 7 263 45 1 1 1 2 1 2 1 1 72 11 48 21 16 1 101 7 2 6 2 2 1 4 35 1 30 27 91 11 58",
    "9 9 1 24 4 1 9 1 3 1 5 43 3 60 8 42 24 1 32 55 1 1 1 4 8 4 1 3 7 10 2 29 1 58 1 4 4 8 1 20 2",
    "26 1 2 2 57 1 4 2 4 2 2 3 3 1 30 2 3 1 11 2 57 1 4 5 1 2 4 1 20 2 22 6 1 1 58 1 2 1 1 4 8 1",
    "7 2 11 2 30 1 61 1 12 1 50 1 3 1 55 1 1 3 5 3 1 4 7 2 11 2 29 1 58 1 15 2 20 2 28 2 57 2 4 4",
    "8 1 20 2 29 1 72 1 7 3 1 1 90 1 2 7 12 8 98 1 2 9 11 7 73 2 27 1 1 1 1 1 55 14 1 5 1 2 5 11",
    "1 36 9 1 102 4 1 6 1 2 2 2 25 2 4 3 16 4 13 1 2 2 6 1 15 1 703 3 946 3 29 2 30 2 30 2 64 2 1",
    "7 8 1 2 11 9 1 45 3 1 1 117 2 34 1 118 3 4 2 9 1 6 3 219 2 2 1 58 1 1 7 1 1 1 1 2 8 6 10 2 1",
    "48 31 49 4 48 1 1 5 1 1 5 1 40 9 12 2 32 4 2 2 1 3 56 1 1 2 3 1 1 3 58 8 2 2 152 3 1 13 1 7",
    "4 1 6 1 3 2 198 64 720 33 3070 3 141 1 96 32 554 4 107 2 30164 4 1 10 32 2 80 2 272 1 3 1 4",
    "1 25 2 5 1 151 2 26 18 13 1 38 8 25 11 46 3 48 1 2 4 2 2 39 1 67 6 2 2 2 2 12 1 8 1 47 1 51",
    "1 1 3 2 2 5 2 1 1 42 2 8 1 238 1 2 1 4 1 20272 1 737 16 16 16 973 1 226 1 149 5 1670 3 1 2 5",
    "4 40 3 4 1 165 2 573 4 387 2 80 3 70 11 49 4 123 1 54 15 41 1 2 2 10 3 49 4 2 2 7 1 61 3 36",
    "5 1 8 62 1 12 2 52 9 10 4 2 1 95 3 2 1 1 2 6 1 2 1 157 1 3 8 21 2 57 2 3 1 37 7 3 5 195 8 2",
    "3 1 1 23 1 84 6 1 1 4 2 1 2 238 4 6 2 1 2 27 2 85 8 2 1 1 2 106 1 1 1 2 6 1 1 101 3 2 4 1 5",
    "259 9 1 2 256 2 1 1 4 1 144 4 2 2 4 1 32 6 2 2 40 6 2 4 8 1 9 6 2 3 46 13 1 2 406 7 1 6 84",
    "22 2 7 1 2 1 2 122 6 3 1 1 2 1 7 1 1 72 2 3 1 1 1 347 2 11 2 52 5 5 1 1 1 5373 1 6 15 13978",
    "5 59 7 1048 1 63 4 81 1 19640 2 4705 46 2 23 544 3 17 8 2 7 30 4 148 3 1979 55 4 50 8 1 14 1",
    "22 5 1 15 1360 7 1 17 2 7 1 2 1 5 100 1 160 7 375 1 61 4 508 4 992 7 109 7 792501 240"]

def directionNeutral : CodeSet := .ofGaps [
    "0 9 5 14 5 15 10 7 26 6 26 10 1 36 1 7 2 1 1 3 2 5 23 1 31 1 449 2 7 14 2 14 5 9 1 17 116 2",
    "8 1 5 2 1 1 110 1 403 1 2 3 118 2 1 2 1 1 1 2 90 1 115 1 10 1 268 4 504 2 7 1 245 1 257 8",
    "125 7 448 1 250 4 1106 10 102 1 666 2 318 1 20 10 6 11 3 1 305 1 3 2 152 34 1469 1 1 3 11 3",
    "13 3 13 3 13 2 12 3 2 24 7 48 1 6 4 6 10 5 11 5 17 48 48 2 1 4 1 2 10 1 1 3 5 6 1 1 1 1 1 1",
    "4 1 11 2 4 5 5 4 2 16 41 3 4 422 69 26 1 145 25 11 21 40 98 450 1 339 256 628 2 32 1 105 229",
    "6 14 7 256 94 34 26 1 89 12 214 26 12 5 4 3 25 15 1 5 2 5 3 91 2 3 1 90 1 196 36 57 2 49 16",
    "28 3 50 15 12 4 167 4 99 2 31 1 6592 64 22160 55 326 3 99 1 10 2 128 34 102 1 159 4 12 2 58",
    "4 754 2 20413 1 532 18 127 33 13 3 16 10 22 35 1 19 1 4 147 1 1 15 10 7 26 6 26 11 122 7 1 7",
    "1 16 257 1 62 77 3 13 3 1 1918 1 537 7 1298 20 1530 13 2408 29 20464 1 19645 4 5327 8 110 2",
    "21 66 3 1 186 87 900 1 57 1 57 1 57 1 57 1 2875 1 3056 2 270 44 4 100 12 15 2 15 1 15 1 37",
    "21 5 31 1 58 6 61 1 178 6 154 984 4 17 3 13 3 119 4 95 6 12 4 1 15 12 4 56 8 10 6 40 8 30 2",
    "2 78 340 12 14 2 13 3 9 7 46 1 7 8 14 4 9 7 9 7 147 1 55 1075 2 65534 2 65534 2 65534 2",
    "65534 2 65534 2 65534 2 65534 2 65534 2 65534 2 65534 2 65534 2 65534 258 240 3600 61438 2",
    "65534 2 65534 2"]

/-- Whether a character is a mark. None stands before the combining grave accent. -/
def isMark (n : Nat) : Bool := 0x300 ≤ n && marks.contains n

/-- Whether a character is written from right to left. None stands before the Hebrew ones. -/
def isRightToLeft (n : Nat) : Bool :=
  0x590 ≤ n && (directionRight.contains n || arabicNumber.contains n)

end ChatRelay.Unicode
