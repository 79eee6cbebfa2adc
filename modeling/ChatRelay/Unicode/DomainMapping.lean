import ChatRelay.Unicode.CodeSet

/-!
The mapping of characters in domain names: which are kept, dropped, replaced or not allowed.
Characters that older rules replaced and newer ones keep are kept.
-/

namespace ChatRelay.Unicode

/-- What becomes of a character in a domain name. -/
inductive DomainStatus where
  | kept
  | dropped
  | replaced (target : List Nat)
  | refused
  deriving DecidableEq, Repr

/-- Characters at equal distances whose replacements lie at equal distances. -/
structure Run where
  first : Nat
  count : Nat
  stride : Nat
  target : Nat
  targetStride : Nat

def Run.get? (r : Run) (n : Nat) : Option Nat :=
  let i := (n - r.first) / r.stride
  if r.first ≤ n ∧ (n - r.first) % r.stride = 0 ∧ i < r.count then
    some (r.target + i * r.targetStride)
  else none

def numeralGroups (lines : List String) : List (List Nat) :=
  (lines.flatMap (·.splitOn ",")).map fun group => numerals [group]

def domainRefused : CodeSet := .ofGaps [
    "128 32 728 2 6 4 7 1 1 1 20 1 397 1 38 2 50 2 3 1 55 8 27 4 6 17 22 1 192 1 48 2 59 2 101 14",
    "59 2 49 2 15 1 28 2 1 1 11 5 32 7 75 1 161 1 8 2 2 2 22 1 7 1 1 3 4 2 9 2 2 2 4 8 1 4 2 1 5",
    "2 25 2 3 1 6 4 2 2 22 1 7 1 2 1 2 1 2 2 1 1 5 4 2 2 3 3 1 7 4 1 1 7 17 10 3 1 9 1 3 1 22 1 7",
    "1 2 1 5 2 10 1 3 1 3 2 1 15 4 2 12 7 7 1 3 1 8 2 2 2 22 1 7 1 2 1 5 2 9 2 2 2 3 7 3 4 2 1 5",
    "2 18 10 2 1 6 3 3 1 4 3 2 1 1 1 2 3 2 3 3 3 12 4 5 3 3 1 4 2 1 6 1 14 21 5 13 1 3 1 23 1 16",
    "2 9 1 3 1 4 7 2 1 3 1 2 2 4 2 10 7 22 1 3 1 23 1 10 1 5 2 9 1 3 1 4 7 2 5 3 1 4 2 10 1 3 12",
    "13 1 3 1 51 1 3 1 6 4 16 2 26 1 3 1 18 3 24 1 9 1 1 2 7 3 1 4 6 1 1 1 8 6 10 2 3 12 58 4 29",
    "37 2 1 1 1 5 1 24 1 1 1 23 2 5 1 1 1 7 1 10 2 4 32 72 1 36 4 39 1 36 1 15 1 13 37 198 1 1 5",
    "1 2 377 1 4 2 7 1 1 1 4 2 41 1 4 2 33 1 4 2 7 1 1 1 4 2 15 1 57 1 4 2 67 2 32 3 26 6 86 2 6",
    "2 640 1 28 3 89 7 22 9 24 9 20 12 13 1 3 1 2 12 94 2 10 6 10 6 26 6 89 7 43 5 70 10 31 1 12",
    "4 12 4 1 3 42 2 5 11 44 4 26 6 11 3 62 2 65 1 29 2 11 6 10 6 14 2 46 2 12 20 77 1 166 8 60 3",
    "15 3 62 5 43 2 11 8 43 5 534 2 6 2 38 2 6 2 8 1 1 1 1 1 1 1 31 2 53 1 15 1 14 2 6 1 19 2 3 1",
    "9 1 14 2 20 3 1 7 54 5 8 2 27 1 13 3 34 14 33 15 140 4 666 22 11 21 40 20 1752 2 382 5 45 1",
    "1 5 1 2 56 7 2 14 24 9 7 1 7 1 7 1 7 1 7 1 7 1 7 1 7 1 126 34 26 1 89 12 214 42 64 1 86 2",
    "103 5 43 1 94 1 86 10 47 1 418 1 4 1 16 1 28852 3 55 9 348 20 184 8 221 20 60 3 10 6 56 8 70",
    "8 12 6 116 11 30 3 78 1 11 4 33 1 55 9 14 2 10 2 103 24 28 10 6 2 6 2 6 9 7 1 7 1 60 4 126 2",
    "10 6 11172 12 23 4 49 8452 366 2 106 38 7 12 5 5 26 1 5 1 1 1 2 1 2 1 650 32 34 1 6 7 16 1",
    "33 2 19 1 4 4 5 1 135 2 1 1 190 3 6 2 6 2 6 2 3 3 7 1 7 17 12 1 26 1 19 1 2 1 15 2 14 34 123",
    "5 3 4 45 3 88 1 13 3 1 47 46 130 29 3 49 15 28 4 36 9 30 5 43 5 30 1 37 4 14 42 158 2 10 6",
    "36 4 36 4 40 8 52 11 12 1 15 1 7 1 2 1 11 1 15 1 7 1 2 3 52 12 311 9 22 10 8 24 6 1 42 1 9",
    "69 6 2 1 1 44 1 2 3 1 2 23 1 72 8 9 48 19 1 2 5 33 3 27 5 27 38 56 4 20 2 50 1 2 5 8 1 3 1",
    "29 2 3 4 10 7 9 7 64 32 39 4 12 9 54 3 29 2 27 5 26 7 4 12 7 80 73 55 51 13 51 7 46 8 10 6",
    "38 3 29 8 2 208 31 1 42 1 3 2 2 16 6 8 9 33 46 8 42 22 26 38 28 20 23 9 78 4 36 9 62 1 5 13",
    "25 7 10 6 53 1 18 8 39 9 96 1 20 11 18 1 47 62 7 1 1 1 4 1 15 1 11 6 59 5 10 6 4 1 8 2 2 2",
    "22 1 7 1 2 1 5 1 10 2 2 2 3 2 1 6 1 5 7 2 7 3 5 11 10 1 1 2 1 1 38 1 10 1 1 2 1 1 4 1 10 1 2",
    "8 2 29 92 1 5 30 72 8 10 166 54 2 38 34 69 11 10 6 13 19 58 6 10 6 20 28 27 2 15 4 23 185 60",
    "100 83 12 8 2 1 2 8 1 2 1 30 1 2 2 12 9 10 70 8 2 46 2 11 27 72 8 83 13 73 7 10 86 8 88 34",
    "14 10 6 9 1 45 1 14 10 29 3 32 2 22 1 14 73 7 1 2 1 44 3 1 1 2 1 9 8 10 6 6 1 2 1 37 1 2 1 6",
    "7 10 6 44 4 10 246 25 7 17 1 41 3 29 85 1 15 50 13 923 102 111 1 5 11 196 2636 99 13 1072 16",
    "22 10 3995 5 583 6841 58 1734 569 7 31 1 10 4 81 1 10 6 30 2 6 10 70 10 10 1 7 1 21 5 19 432",
    "58 198 91 5 25 2 25 44 75 4 57 7 17 64 5 11 7 9 7382 41 32 97 115 8701 4 1 7 1 2 1 291 15 1",
    "29 3 2 1 14 4 8 396 2308 107 5 13 3 9 7 10 2 8 3932 253 3 436 6 23 15 17 15 46 2 23 9 116 60",
    "246 10 39 2 194 21 70 122 20 12 20 12 87 9 25 135 85 1 71 1 2 2 1 2 2 2 4 1 12 1 1 1 7 1 65",
    "1 4 2 8 1 7 1 28 1 4 1 5 1 1 3 7 1 340 2 292 2 702 15 5 1 15 1104 31 6 6 213 7 1 17 2 7 1 2",
    "1 5 5 62 33 1 112 45 3 14 2 10 4 2 320 31 17 58 5 1 464 42 214 43 4 1 192 31 1 22 8 2 224 7",
    "1 4 1 2 1 15 1 197 2 16 41 76 4 10 4 2 785 68 76 61 194 4 1 27 1 2 1 1 2 1 1 10 1 4 1 1 1 1",
    "6 1 4 1 1 1 1 1 1 3 1 2 1 1 2 1 1 1 1 1 1 1 1 1 1 2 1 1 2 4 1 7 1 4 1 4 1 1 1 10 1 17 5 3 1",
    "5 1 17 52 2 270 44 4 100 12 15 2 15 1 15 1 37 11 173 56 29 13 44 4 9 7 2 14 6 154 985 3 17 3",
    "13 3 218 6 12 4 1 15 12 4 56 8 10 6 40 8 30 2 12 4 2 14 9 39 344 8 14 2 13 3 11 3 57 1 1 4",
    "16 2 12 4 10 7 147 1 103 1029 42720 32 4382 2 5774 2 7473 15 622 2466 542 1506 4939 5 8490",
    "707718 240 196112"]

def domainDropped : CodeSet := .ofGaps [
    "173 1 673 1 3599 2 1619 2 85 5 2043 1 84 5 5 6 4340 1 52379 16 239 1 160 1 48383 4 5327 8",
    "798597 240"]

def domainRuns : List Run :=
  (numeralGroups domainRunLines).filterMap fun
    | [first, count, stride, target, targetStride] =>
      some ⟨first, count, stride, target, targetStride⟩
    | _ => none
where
  /-- First, count, stride, target and its stride of each run. -/
  domainRunLines : List String := [
    "65 26 1 97 1, 160 1 1 32 1, 170 1 1 97 1, 178 2 1 50 1, 181 1 1 956 1, 185 1 1 49 1",
    "186 1 1 111 1, 192 23 1 224 1, 216 7 1 248 1, 256 24 2 257 2, 308 2 2 309 2, 313 3 2 314 2",
    "321 4 2 322 2, 330 23 2 331 2, 376 1 1 255 1, 377 3 2 378 2, 383 1 1 115 1, 385 1 1 595 1",
    "386 2 2 387 2, 390 1 1 596 1, 391 1 1 392 1, 393 2 1 598 1, 395 1 1 396 1, 398 1 1 477 1",
    "399 2 1 601 2, 401 1 1 402 1, 403 1 1 608 1, 404 1 1 611 1, 406 1 1 617 1, 407 1 1 616 1",
    "408 1 1 409 1, 412 1 1 623 1, 413 1 1 626 1, 415 1 1 629 1, 416 3 2 417 2, 422 1 1 640 1",
    "423 1 1 424 1, 425 1 1 643 1, 428 1 1 429 1, 430 1 1 648 1, 431 1 1 432 1, 433 2 1 650 1",
    "435 2 2 436 2, 439 1 1 658 1, 440 1 1 441 1, 444 1 1 445 1, 461 8 2 462 2, 478 9 2 479 2",
    "500 1 1 501 1, 502 1 1 405 1, 503 1 1 447 1, 504 20 2 505 2, 544 1 1 414 1, 546 9 2 547 2",
    "570 1 1 11365 1, 571 1 1 572 1, 573 1 1 410 1, 574 1 1 11366 1, 577 1 1 578 1, 579 1 1 384 1",
    "580 1 1 649 1, 581 1 1 652 1, 582 5 2 583 2, 688 2 2 104 2, 689 1 1 614 1, 691 1 1 114 1",
    "692 2 1 633 2, 694 1 1 641 1, 695 2 1 119 2, 736 1 1 611 1, 737 1 1 108 1, 738 1 1 115 1",
    "739 1 1 120 1, 740 1 1 661 1, 832 2 1 768 1, 835 1 1 787 1, 837 1 1 953 1, 880 2 2 881 2",
    "884 1 1 697 1, 886 1 1 887 1, 894 1 1 59 1, 895 1 1 1011 1, 902 2 2 940 1, 903 1 1 183 1",
    "905 2 1 942 1, 908 2 2 972 1, 911 1 1 974 1, 913 17 1 945 1, 931 9 1 963 1, 975 1 1 983 1",
    "976 1 1 946 1, 977 1 1 952 1, 978 1 1 965 1, 979 1 1 973 1, 980 1 1 971 1, 981 1 1 966 1",
    "982 1 1 960 1, 984 12 2 985 2, 1008 1 1 954 1, 1009 2 1 961 2, 1012 1 1 952 1",
    "1013 1 1 949 1, 1015 1 1 1016 1, 1017 1 1 963 1, 1018 1 1 1019 1, 1021 3 1 891 1",
    "1024 16 1 1104 1, 1040 32 1 1072 1, 1120 17 2 1121 2, 1162 27 2 1163 2, 1216 1 1 1231 1",
    "1217 7 2 1218 2, 1232 48 2 1233 2, 1329 38 1 1377 1, 3852 1 1 3851 1, 4256 38 1 11520 1",
    "4295 1 1 11559 1, 4301 1 1 11565 1, 4348 1 1 4316 1, 5112 6 1 5104 1, 7296 2 1 1074 2",
    "7298 1 1 1086 1, 7299 2 1 1089 1, 7301 1 1 1090 1, 7302 1 1 1098 1, 7303 1 1 1123 1",
    "7304 1 1 42571 1, 7305 1 1 7306 1, 7312 43 1 4304 1, 7357 3 1 4349 1, 7468 2 2 97 1",
    "7469 1 1 230 1, 7472 2 1 100 1, 7474 1 1 477 1, 7475 8 1 103 1, 7484 2 2 111 1",
    "7485 1 1 547 1, 7487 2 1 114 2, 7489 2 1 117 2, 7491 1 1 97 1, 7492 2 1 592 1",
    "7494 1 1 7426 1, 7495 2 1 98 2, 7497 1 1 101 1, 7498 2 1 601 2, 7500 1 1 604 1",
    "7501 1 1 103 1, 7503 2 1 107 2, 7505 1 1 331 1, 7506 1 1 111 1, 7507 1 1 596 1",
    "7508 2 1 7446 1, 7510 1 1 112 1, 7511 2 1 116 1, 7513 1 1 7453 1, 7514 1 1 623 1",
    "7515 1 1 118 1, 7516 1 1 7461 1, 7517 3 1 946 1, 7520 2 1 966 1, 7522 1 1 105 1",
    "7523 1 1 114 1, 7524 2 1 117 1, 7526 2 1 946 1, 7528 1 1 961 1, 7529 2 1 966 1",
    "7544 1 1 1085 1, 7579 1 1 594 1, 7580 1 1 99 1, 7581 1 1 597 1, 7582 1 1 240 1",
    "7583 1 1 604 1, 7584 1 1 102 1, 7585 2 1 607 2, 7587 1 1 613 1, 7588 3 1 616 1",
    "7591 1 1 7547 1, 7592 1 1 669 1, 7593 1 1 621 1, 7594 1 1 7557 1, 7595 1 1 671 1",
    "7596 2 2 625 1, 7597 1 1 624 1, 7599 3 1 627 1, 7602 1 1 632 1, 7603 2 1 642 1",
    "7605 1 1 427 1, 7606 2 1 649 1, 7608 1 1 7452 1, 7609 2 1 651 1, 7611 1 1 122 1",
    "7612 3 1 656 1, 7615 1 1 952 1, 7680 75 2 7681 2, 7835 1 1 7777 1, 7838 1 1 223 1",
    "7840 48 2 7841 2, 7944 8 1 7936 1, 7960 6 1 7952 1, 7976 8 1 7968 1, 7992 8 1 7984 1",
    "8008 6 1 8000 1, 8025 4 2 8017 2, 8040 8 1 8032 1, 8049 4 2 940 1, 8057 3 2 972 1",
    "8120 2 1 8112 1, 8122 1 1 8048 1, 8123 1 1 940 1, 8126 1 1 953 1, 8136 2 2 8050 2",
    "8137 2 2 941 1, 8147 1 1 912 1, 8152 2 1 8144 1, 8154 1 1 8054 1, 8155 1 1 943 1",
    "8163 1 1 944 1, 8168 2 1 8160 1, 8170 1 1 8058 1, 8171 1 1 973 1, 8172 1 1 8165 1",
    "8175 1 1 96 1, 8184 1 1 8056 1, 8185 2 2 972 2, 8186 1 1 8060 1, 8192 11 1 32 0",
    "8209 1 1 8208 1, 8239 1 1 32 1, 8287 1 1 32 1, 8304 1 1 48 1, 8305 1 1 105 1, 8308 6 1 52 1",
    "8314 1 1 43 1, 8315 1 1 8722 1, 8316 1 1 61 1, 8317 2 1 40 1, 8319 1 1 110 1, 8320 10 1 48 1",
    "8330 1 1 43 1, 8331 1 1 8722 1, 8332 1 1 61 1, 8333 2 1 40 1, 8336 1 1 97 1, 8337 1 1 101 1",
    "8338 1 1 111 1, 8339 1 1 120 1, 8340 1 1 601 1, 8341 1 1 104 1, 8342 4 1 107 1",
    "8346 1 1 112 1, 8347 2 1 115 1, 8450 1 1 99 1, 8455 1 1 603 1, 8458 2 1 103 1",
    "8460 3 1 104 0, 8463 1 1 295 1, 8464 2 1 105 0, 8466 2 1 108 0, 8469 1 1 110 1",
    "8473 3 1 112 1, 8476 2 1 114 0, 8484 1 1 122 1, 8486 1 1 969 1, 8488 1 1 122 1",
    "8490 1 1 107 1, 8491 1 1 229 1, 8492 2 1 98 1, 8495 2 1 101 0, 8497 1 1 102 1",
    "8498 1 1 8526 1, 8499 2 1 109 2, 8501 4 1 1488 1, 8505 1 1 105 1, 8508 1 1 960 1",
    "8509 2 1 947 0, 8511 1 1 960 1, 8512 1 1 8721 1, 8517 2 1 100 0, 8519 1 1 101 1",
    "8520 2 1 105 1, 8544 1 1 105 1, 8548 1 1 118 1, 8553 1 1 120 1, 8556 1 1 108 1",
    "8557 2 1 99 1, 8559 1 1 109 1, 8560 1 1 105 1, 8564 1 1 118 1, 8569 1 1 120 1",
    "8572 1 1 108 1, 8573 2 1 99 1, 8575 1 1 109 1, 8579 1 1 8580 1, 9001 2 1 12296 1",
    "9312 9 1 49 1, 9398 26 1 97 1, 9424 26 1 97 1, 9450 1 1 48 1, 11264 48 1 11312 1",
    "11360 1 1 11361 1, 11362 1 1 619 1, 11363 1 1 7549 1, 11364 1 1 637 1, 11367 3 2 11368 2",
    "11373 1 1 593 1, 11374 1 1 625 1, 11375 2 1 592 2, 11378 1 1 11379 1, 11381 1 1 11382 1",
    "11388 1 1 106 1, 11389 1 1 118 1, 11390 2 1 575 1, 11392 50 2 11393 2, 11499 2 2 11500 2",
    "11506 1 1 11507 1, 11631 1 1 11617 1, 11935 1 1 27597 1, 12019 1 1 40863 1",
    "12032 1 1 19968 1, 12033 1 1 20008 1, 12034 1 1 20022 1, 12035 1 1 20031 1",
    "12036 1 1 20057 1, 12037 1 1 20101 1, 12038 1 1 20108 1, 12039 1 1 20128 1",
    "12040 1 1 20154 1, 12041 1 1 20799 1, 12042 1 1 20837 1, 12043 1 1 20843 1",
    "12044 1 1 20866 1, 12045 1 1 20886 1, 12046 1 1 20907 1, 12047 1 1 20960 1",
    "12048 1 1 20981 1, 12049 1 1 20992 1, 12050 1 1 21147 1, 12051 1 1 21241 1",
    "12052 1 1 21269 1, 12053 1 1 21274 1, 12054 1 1 21304 1, 12055 1 1 21313 1",
    "12056 1 1 21340 1, 12057 1 1 21353 1, 12058 1 1 21378 1, 12059 1 1 21430 1",
    "12060 1 1 21448 1, 12061 1 1 21475 1, 12062 1 1 22231 1, 12063 1 1 22303 1",
    "12064 1 1 22763 1, 12065 1 1 22786 1, 12066 1 1 22794 1, 12067 1 1 22805 1",
    "12068 1 1 22823 1, 12069 1 1 22899 1, 12070 1 1 23376 1, 12071 1 1 23424 1",
    "12072 1 1 23544 1, 12073 1 1 23567 1, 12074 1 1 23586 1, 12075 1 1 23608 1",
    "12076 1 1 23662 1, 12077 1 1 23665 1, 12078 1 1 24027 1, 12079 1 1 24037 1",
    "12080 1 1 24049 1, 12081 1 1 24062 1, 12082 1 1 24178 1, 12083 1 1 24186 1",
    "12084 1 1 24191 1, 12085 1 1 24308 1, 12086 1 1 24318 1, 12087 1 1 24331 1",
    "12088 1 1 24339 1, 12089 1 1 24400 1, 12090 1 1 24417 1, 12091 1 1 24435 1",
    "12092 1 1 24515 1, 12093 1 1 25096 1, 12094 1 1 25142 1, 12095 1 1 25163 1",
    "12096 1 1 25903 1, 12097 1 1 25908 1, 12098 1 1 25991 1, 12099 1 1 26007 1",
    "12100 1 1 26020 1, 12101 1 1 26041 1, 12102 1 1 26080 1, 12103 1 1 26085 1",
    "12104 1 1 26352 1, 12105 1 1 26376 1, 12106 1 1 26408 1, 12107 1 1 27424 1",
    "12108 1 1 27490 1, 12109 1 1 27513 1, 12110 1 1 27571 1, 12111 1 1 27595 1",
    "12112 1 1 27604 1, 12113 1 1 27611 1, 12114 1 1 27663 1, 12115 1 1 27668 1",
    "12116 1 1 27700 1, 12117 1 1 28779 1, 12118 1 1 29226 1, 12119 1 1 29238 1",
    "12120 1 1 29243 1, 12121 1 1 29247 1, 12122 1 1 29255 1, 12123 2 1 29273 2",
    "12125 1 1 29356 1, 12126 1 1 29572 1, 12127 1 1 29577 1, 12128 1 1 29916 1",
    "12129 1 1 29926 1, 12130 1 1 29976 1, 12131 1 1 29983 1, 12132 1 1 29992 1",
    "12133 1 1 30000 1, 12134 1 1 30091 1, 12135 1 1 30098 1, 12136 1 1 30326 1",
    "12137 1 1 30333 1, 12138 1 1 30382 1, 12139 1 1 30399 1, 12140 1 1 30446 1",
    "12141 1 1 30683 1, 12142 1 1 30690 1, 12143 1 1 30707 1, 12144 1 1 31034 1",
    "12145 1 1 31160 1, 12146 1 1 31166 1, 12147 1 1 31348 1, 12148 1 1 31435 1",
    "12149 1 1 31481 1, 12150 1 1 31859 1, 12151 1 1 31992 1, 12152 1 1 32566 1",
    "12153 1 1 32593 1, 12154 1 1 32650 1, 12155 1 1 32701 1, 12156 1 1 32769 1",
    "12157 1 1 32780 1, 12158 1 1 32786 1, 12159 1 1 32819 1, 12160 1 1 32895 1",
    "12161 1 1 32905 1, 12162 1 1 33251 1, 12163 1 1 33258 1, 12164 1 1 33267 1",
    "12165 1 1 33276 1, 12166 1 1 33292 1, 12167 1 1 33307 1, 12168 1 1 33311 1",
    "12169 1 1 33390 1, 12170 1 1 33394 1, 12171 1 1 33400 1, 12172 1 1 34381 1",
    "12173 1 1 34411 1, 12174 1 1 34880 1, 12175 1 1 34892 1, 12176 1 1 34915 1",
    "12177 1 1 35198 1, 12178 1 1 35211 1, 12179 1 1 35282 1, 12180 1 1 35328 1",
    "12181 1 1 35895 1, 12182 1 1 35910 1, 12183 1 1 35925 1, 12184 1 1 35960 1",
    "12185 1 1 35997 1, 12186 1 1 36196 1, 12187 1 1 36208 1, 12188 1 1 36275 1",
    "12189 1 1 36523 1, 12190 1 1 36554 1, 12191 1 1 36763 1, 12192 1 1 36784 1",
    "12193 1 1 36789 1, 12194 1 1 37009 1, 12195 1 1 37193 1, 12196 1 1 37318 1",
    "12197 1 1 37324 1, 12198 1 1 37329 1, 12199 1 1 38263 1, 12200 1 1 38272 1",
    "12201 1 1 38428 1, 12202 1 1 38582 1, 12203 1 1 38585 1, 12204 1 1 38632 1",
    "12205 1 1 38737 1, 12206 1 1 38750 1, 12207 1 1 38754 1, 12208 1 1 38761 1",
    "12209 1 1 38859 1, 12210 1 1 38893 1, 12211 1 1 38899 1, 12212 1 1 38913 1",
    "12213 1 1 39080 1, 12214 1 1 39131 1, 12215 1 1 39135 1, 12216 1 1 39318 1",
    "12217 1 1 39321 1, 12218 1 1 39340 1, 12219 1 1 39592 1, 12220 1 1 39640 1",
    "12221 1 1 39647 1, 12222 1 1 39717 1, 12223 1 1 39727 1, 12224 1 1 39730 1",
    "12225 1 1 39740 1, 12226 1 1 39770 1, 12227 1 1 40165 1, 12228 1 1 40565 1",
    "12229 1 1 40575 1, 12230 1 1 40613 1, 12231 1 1 40635 1, 12232 1 1 40643 1",
    "12233 1 1 40653 1, 12234 1 1 40657 1, 12235 1 1 40697 1, 12236 1 1 40701 1",
    "12237 1 1 40718 1, 12238 1 1 40723 1, 12239 1 1 40736 1, 12240 1 1 40763 1",
    "12241 1 1 40778 1, 12242 1 1 40786 1, 12243 1 1 40845 1, 12244 1 1 40860 1",
    "12245 1 1 40864 1, 12288 1 1 32 1, 12290 1 1 46 1, 12342 1 1 12306 1, 12344 1 1 21313 1",
    "12345 2 1 21316 1, 12593 2 1 4352 1, 12595 2 2 4522 2, 12596 1 1 4354 1, 12598 1 1 4525 1",
    "12599 3 1 4355 1, 12602 6 1 4528 1, 12608 1 1 4378 1, 12609 3 1 4358 1, 12612 1 1 4385 1",
    "12613 10 1 4361 1, 12623 21 1 4449 1, 12645 2 1 4372 1, 12647 2 1 4551 1, 12649 2 1 4556 2",
    "12651 1 1 4563 1, 12652 2 1 4567 2, 12654 1 1 4380 1, 12655 2 1 4573 2, 12657 2 1 4381 1",
    "12659 2 1 4384 2, 12661 1 1 4387 1, 12662 3 1 4391 2, 12665 4 1 4396 1, 12669 1 1 4402 1",
    "12670 1 1 4406 1, 12671 1 1 4416 1, 12672 1 1 4423 1, 12673 1 1 4428 1, 12674 2 1 4593 1",
    "12676 3 1 4439 1, 12679 2 1 4484 1, 12681 1 1 4488 1, 12682 2 1 4497 1, 12684 1 1 4500 1",
    "12685 1 1 4510 1, 12686 1 1 4513 1, 12690 1 1 19968 1, 12691 1 1 20108 1, 12692 3 2 19977 1",
    "12693 1 1 22235 1, 12695 1 1 20013 1, 12697 1 1 30002 1, 12698 1 1 20057 1",
    "12699 1 1 19993 1, 12700 1 1 19969 1, 12701 1 1 22825 1, 12702 1 1 22320 1",
    "12703 1 1 20154 1, 12868 1 1 21839 1, 12869 1 1 24188 1, 12870 1 1 25991 1",
    "12871 1 1 31631 1, 12896 2 1 4352 2, 12898 2 1 4355 2, 12900 2 1 4358 1, 12902 2 1 4361 2",
    "12904 2 1 4364 2, 12906 4 1 4367 1, 12910 1 1 44032 1, 12911 1 1 45208 1, 12912 1 1 45796 1",
    "12913 1 1 46972 1, 12914 1 1 47560 1, 12915 1 1 48148 1, 12916 1 1 49324 1",
    "12917 1 1 50500 1, 12918 1 1 51088 1, 12919 1 1 52264 1, 12920 1 1 52852 1",
    "12921 1 1 53440 1, 12922 1 1 54028 1, 12923 1 1 54616 1, 12926 1 1 50864 1",
    "12928 1 1 19968 1, 12929 1 1 20108 1, 12930 1 1 19977 1, 12931 1 1 22235 1",
    "12932 1 1 20116 1, 12933 1 1 20845 1, 12934 1 1 19971 1, 12935 1 1 20843 1",
    "12936 1 1 20061 1, 12937 1 1 21313 1, 12938 1 1 26376 1, 12939 1 1 28779 1",
    "12940 1 1 27700 1, 12941 1 1 26408 1, 12942 1 1 37329 1, 12943 1 1 22303 1",
    "12944 1 1 26085 1, 12945 1 1 26666 1, 12946 1 1 26377 1, 12947 1 1 31038 1",
    "12948 1 1 21517 1, 12949 1 1 29305 1, 12950 1 1 36001 1, 12951 1 1 31069 1",
    "12952 1 1 21172 1, 12953 1 1 31192 1, 12954 1 1 30007 1, 12955 1 1 22899 1",
    "12956 1 1 36969 1, 12957 1 1 20778 1, 12958 1 1 21360 1, 12959 1 1 27880 1",
    "12960 1 1 38917 1, 12961 1 1 20241 1, 12962 1 1 20889 1, 12963 1 1 27491 1",
    "12964 2 2 19978 1, 12965 1 1 20013 1, 12967 1 1 24038 1, 12968 1 1 21491 1",
    "12969 1 1 21307 1, 12970 1 1 23447 1, 12971 1 1 23398 1, 12972 1 1 30435 1",
    "12973 1 1 20225 1, 12974 1 1 36039 1, 12975 1 1 21332 1, 12976 1 1 22812 1",
    "13008 5 1 12450 2, 13013 12 1 12459 2, 13025 4 1 12484 2, 13029 5 1 12491 1",
    "13034 1 1 12498 1, 13035 1 1 12501 1, 13036 1 1 12504 1, 13037 1 1 12507 1",
    "13038 5 1 12510 1, 13043 3 1 12516 2, 13046 5 1 12521 1, 13051 4 1 12527 1",
    "42560 23 2 42561 2, 42624 14 2 42625 2, 42652 2 1 1098 2, 42786 7 2 42787 2",
    "42802 31 2 42803 2, 42864 1 1 42863 1, 42873 2 2 42874 2, 42877 1 1 7545 1",
    "42878 5 2 42879 2, 42891 1 1 42892 1, 42893 1 1 613 1, 42896 2 2 42897 2, 42902 10 2 42903 2",
    "42922 1 1 614 1, 42923 1 1 604 1, 42924 1 1 609 1, 42925 1 1 620 1, 42926 1 1 618 1",
    "42928 1 1 670 1, 42929 1 1 647 1, 42930 1 1 669 1, 42931 1 1 43859 1, 42932 8 2 42933 2",
    "42948 1 1 42900 1, 42949 1 1 642 1, 42950 1 1 7566 1, 42951 2 2 42952 2, 42955 1 1 612 1",
    "42956 8 2 42957 2, 42972 1 1 411 1, 42993 1 1 115 1, 42994 1 1 99 1, 42995 1 1 102 1",
    "42996 1 1 113 1, 42997 1 1 42998 1, 43000 1 1 295 1, 43001 1 1 339 1, 43868 1 1 42791 1",
    "43869 1 1 43831 1, 43870 1 1 619 1, 43871 1 1 43858 1, 43881 1 1 653 1, 43888 80 1 5024 1",
    "63744 1 1 35912 1, 63745 1 1 26356 1, 63746 1 1 36554 1, 63747 1 1 36040 1",
    "63748 1 1 28369 1, 63749 1 1 20018 1, 63750 1 1 21477 1, 63751 2 1 40860 0",
    "63753 1 1 22865 1, 63754 1 1 37329 1, 63755 1 1 21895 1, 63756 1 1 22856 1",
    "63757 1 1 25078 1, 63758 1 1 30313 1, 63759 1 1 32645 1, 63760 1 1 34367 1",
    "63761 1 1 34746 1, 63762 1 1 35064 1, 63763 1 1 37007 1, 63764 1 1 27138 1",
    "63765 1 1 27931 1, 63766 1 1 28889 1, 63767 1 1 29662 1, 63768 1 1 33853 1",
    "63769 1 1 37226 1, 63770 1 1 39409 1, 63771 1 1 20098 1, 63772 1 1 21365 1",
    "63773 1 1 27396 1, 63774 1 1 29211 1, 63775 1 1 34349 1, 63776 1 1 40478 1",
    "63777 1 1 23888 1, 63778 1 1 28651 1, 63779 1 1 34253 1, 63780 1 1 35172 1",
    "63781 1 1 25289 1, 63782 1 1 33240 1, 63783 1 1 34847 1, 63784 1 1 24266 1",
    "63785 1 1 26391 1, 63786 1 1 28010 1, 63787 1 1 29436 1, 63788 1 1 37070 1",
    "63789 1 1 20358 1, 63790 1 1 20919 1, 63791 1 1 21214 1, 63792 1 1 25796 1",
    "63793 1 1 27347 1, 63794 1 1 29200 1, 63795 1 1 30439 1, 63796 1 1 32769 1",
    "63797 1 1 34310 1, 63798 1 1 34396 1, 63799 1 1 36335 1, 63800 1 1 38706 1",
    "63801 1 1 39791 1, 63802 1 1 40442 1, 63803 1 1 30860 1, 63804 1 1 31103 1",
    "63805 1 1 32160 1, 63806 1 1 33737 1, 63807 1 1 37636 1, 63808 1 1 40575 1",
    "63809 1 1 35542 1, 63810 1 1 22751 1, 63811 1 1 24324 1, 63812 1 1 31840 1",
    "63813 1 1 32894 1, 63814 1 1 29282 1, 63815 1 1 30922 1, 63816 1 1 36034 1",
    "63817 1 1 38647 1, 63818 1 1 22744 1, 63819 1 1 23650 1, 63820 1 1 27155 1",
    "63821 1 1 28122 1, 63822 1 1 28431 1, 63823 1 1 32047 1, 63824 1 1 32311 1",
    "63825 1 1 38475 1, 63826 1 1 21202 1, 63827 1 1 32907 1, 63828 1 1 20956 1",
    "63829 1 1 20940 1, 63830 1 1 31260 1, 63831 1 1 32190 1, 63832 1 1 33777 1",
    "63833 1 1 38517 1, 63834 1 1 35712 1, 63835 1 1 25295 1, 63836 1 1 27138 1",
    "63837 1 1 35582 1, 63838 1 1 20025 1, 63839 1 1 23527 1, 63840 1 1 24594 1",
    "63841 1 1 29575 1, 63842 1 1 30064 1, 63843 1 1 21271 1, 63844 1 1 30971 1",
    "63845 1 1 20415 1, 63846 1 1 24489 1, 63847 1 1 19981 1, 63848 1 1 27852 1",
    "63849 1 1 25976 1, 63850 1 1 32034 1, 63851 1 1 21443 1, 63852 1 1 22622 1",
    "63853 1 1 30465 1, 63854 1 1 33865 1, 63855 1 1 35498 1, 63856 1 1 27578 1",
    "63857 1 1 36784 1, 63858 1 1 27784 1, 63859 1 1 25342 1, 63860 1 1 33509 1",
    "63861 1 1 25504 1, 63862 1 1 30053 1, 63863 1 1 20142 1, 63864 1 1 20841 1",
    "63865 1 1 20937 1, 63866 1 1 26753 1, 63867 1 1 31975 1, 63868 1 1 33391 1",
    "63869 1 1 35538 1, 63870 1 1 37327 1, 63871 1 1 21237 1, 63872 1 1 21570 1",
    "63873 1 1 22899 1, 63874 1 1 24300 1, 63875 1 1 26053 1, 63876 1 1 28670 1",
    "63877 1 1 31018 1, 63878 1 1 38317 1, 63879 1 1 39530 1, 63880 1 1 40599 1",
    "63881 1 1 40654 1, 63882 1 1 21147 1, 63883 1 1 26310 1, 63884 1 1 27511 1",
    "63885 1 1 36706 1, 63886 1 1 24180 1, 63887 1 1 24976 1, 63888 1 1 25088 1",
    "63889 1 1 25754 1, 63890 1 1 28451 1, 63891 1 1 29001 1, 63892 1 1 29833 1",
    "63893 1 1 31178 1, 63894 1 1 32244 1, 63895 1 1 32879 1, 63896 1 1 36646 1",
    "63897 1 1 34030 1, 63898 1 1 36899 1, 63899 1 1 37706 1, 63900 1 1 21015 1",
    "63901 1 1 21155 1, 63902 1 1 21693 1, 63903 1 1 28872 1, 63904 1 1 35010 1",
    "63905 1 1 35498 1, 63906 1 1 24265 1, 63907 1 1 24565 1, 63908 1 1 25467 1",
    "63909 1 1 27566 1, 63910 1 1 31806 1, 63911 1 1 29557 1, 63912 1 1 20196 1",
    "63913 1 1 22265 1, 63914 1 1 23527 1, 63915 1 1 23994 1, 63916 1 1 24604 1",
    "63917 1 1 29618 1, 63918 1 1 29801 1, 63919 1 1 32666 1, 63920 1 1 32838 1",
    "63921 1 1 37428 1, 63922 1 1 38646 1, 63923 1 1 38728 1, 63924 1 1 38936 1",
    "63925 1 1 20363 1, 63926 1 1 31150 1, 63927 1 1 37300 1, 63928 1 1 38584 1",
    "63929 1 1 24801 1, 63930 1 1 20102 1, 63931 1 1 20698 1, 63932 1 1 23534 1",
    "63933 1 1 23615 1, 63934 1 1 26009 1, 63935 1 1 27138 1, 63936 1 1 29134 1",
    "63937 1 1 30274 1, 63938 1 1 34044 1, 63939 1 1 36988 1, 63940 1 1 40845 1",
    "63941 1 1 26248 1, 63942 1 1 38446 1, 63943 1 1 21129 1, 63944 1 1 26491 1",
    "63945 1 1 26611 1, 63946 1 1 27969 1, 63947 1 1 28316 1, 63948 1 1 29705 1",
    "63949 1 1 30041 1, 63950 1 1 30827 1, 63951 1 1 32016 1, 63952 1 1 39006 1",
    "63953 1 1 20845 1, 63954 1 1 25134 1, 63955 1 1 38520 1, 63956 1 1 20523 1",
    "63957 1 1 23833 1, 63958 1 1 28138 1, 63959 1 1 36650 1, 63960 1 1 24459 1",
    "63961 1 1 24900 1, 63962 1 1 26647 1, 63963 1 1 29575 1, 63964 1 1 38534 1",
    "63965 1 1 21033 1, 63966 1 1 21519 1, 63967 1 1 23653 1, 63968 1 1 26131 1",
    "63969 1 1 26446 1, 63970 1 1 26792 1, 63971 1 1 27877 1, 63972 1 1 29702 1",
    "63973 1 1 30178 1, 63974 1 1 32633 1, 63975 1 1 35023 1, 63976 1 1 35041 1",
    "63977 1 1 37324 1, 63978 1 1 38626 1, 63979 1 1 21311 1, 63980 1 1 28346 1",
    "63981 1 1 21533 1, 63982 1 1 29136 1, 63983 1 1 29848 1, 63984 1 1 34298 1",
    "63985 1 1 38563 1, 63986 1 1 40023 1, 63987 1 1 40607 1, 63988 1 1 26519 1",
    "63989 1 1 28107 1, 63990 1 1 33256 1, 63991 1 1 31435 1, 63992 1 1 31520 1",
    "63993 1 1 31890 1, 63994 1 1 29376 1, 63995 1 1 28825 1, 63996 1 1 35672 1",
    "63997 1 1 20160 1, 63998 1 1 33590 1, 63999 1 1 21050 1, 64000 1 1 20999 1",
    "64001 1 1 24230 1, 64002 1 1 25299 1, 64003 1 1 31958 1, 64004 1 1 23429 1",
    "64005 1 1 27934 1, 64006 1 1 26292 1, 64007 1 1 36667 1, 64008 1 1 34892 1",
    "64009 1 1 38477 1, 64010 1 1 35211 1, 64011 1 1 24275 1, 64012 1 1 20800 1",
    "64013 1 1 21952 1, 64016 1 1 22618 1, 64018 1 1 26228 1, 64021 1 1 20958 1",
    "64022 1 1 29482 1, 64023 1 1 30410 1, 64024 1 1 31036 1, 64025 1 1 31070 1",
    "64026 1 1 31077 1, 64027 1 1 31119 1, 64028 1 1 38742 1, 64029 1 1 31934 1",
    "64030 1 1 32701 1, 64032 1 1 34322 1, 64034 1 1 35576 1, 64037 1 1 36920 1",
    "64038 1 1 37117 1, 64042 1 1 39151 1, 64043 1 1 39164 1, 64044 1 1 39208 1",
    "64045 1 1 40372 1, 64046 1 1 37086 1, 64047 1 1 38583 1, 64048 1 1 20398 1",
    "64049 1 1 20711 1, 64050 1 1 20813 1, 64051 1 1 21193 1, 64052 1 1 21220 1",
    "64053 1 1 21329 1, 64054 1 1 21917 1, 64055 1 1 22022 1, 64056 1 1 22120 1",
    "64057 1 1 22592 1, 64058 1 1 22696 1, 64059 1 1 23652 1, 64060 1 1 23662 1",
    "64061 1 1 24724 1, 64062 1 1 24936 1, 64063 1 1 24974 1, 64064 1 1 25074 1",
    "64065 1 1 25935 1, 64066 1 1 26082 1, 64067 1 1 26257 1, 64068 1 1 26757 1",
    "64069 1 1 28023 1, 64070 1 1 28186 1, 64071 1 1 28450 1, 64072 1 1 29038 1",
    "64073 1 1 29227 1, 64074 1 1 29730 1, 64075 1 1 30865 1, 64076 1 1 31038 1",
    "64077 1 1 31049 1, 64078 1 1 31048 1, 64079 1 1 31056 1, 64080 1 1 31062 1",
    "64081 1 1 31069 1, 64082 2 1 31117 1, 64084 1 1 31296 1, 64085 1 1 31361 1",
    "64086 1 1 31680 1, 64087 1 1 32244 1, 64088 1 1 32265 1, 64089 1 1 32321 1",
    "64090 1 1 32626 1, 64091 1 1 32773 1, 64092 1 1 33261 1, 64093 2 1 33401 0",
    "64095 1 1 33879 1, 64096 1 1 35088 1, 64097 1 1 35222 1, 64098 1 1 35585 1",
    "64099 1 1 35641 1, 64100 1 1 36051 1, 64101 1 1 36104 1, 64102 1 1 36790 1",
    "64103 1 1 36920 1, 64104 1 1 38627 1, 64105 1 1 38911 1, 64106 1 1 38971 1",
    "64107 1 1 24693 1, 64108 1 1 148206 1, 64109 1 1 33304 1, 64112 1 1 20006 1",
    "64113 1 1 20917 1, 64114 1 1 20840 1, 64115 1 1 20352 1, 64116 1 1 20805 1",
    "64117 1 1 20864 1, 64118 1 1 21191 1, 64119 1 1 21242 1, 64120 1 1 21917 1",
    "64121 1 1 21845 1, 64122 1 1 21913 1, 64123 1 1 21986 1, 64124 1 1 22618 1",
    "64125 1 1 22707 1, 64126 1 1 22852 1, 64127 1 1 22868 1, 64128 1 1 23138 1",
    "64129 1 1 23336 1, 64130 1 1 24274 1, 64131 1 1 24281 1, 64132 1 1 24425 1",
    "64133 1 1 24493 1, 64134 1 1 24792 1, 64135 1 1 24910 1, 64136 1 1 24840 1",
    "64137 1 1 24974 1, 64138 1 1 24928 1, 64139 1 1 25074 1, 64140 1 1 25140 1",
    "64141 1 1 25540 1, 64142 1 1 25628 1, 64143 1 1 25682 1, 64144 1 1 25942 1",
    "64145 1 1 26228 1, 64146 1 1 26391 1, 64147 1 1 26395 1, 64148 1 1 26454 1",
    "64149 1 1 27513 1, 64150 1 1 27578 1, 64151 1 1 27969 1, 64152 1 1 28379 1",
    "64153 1 1 28363 1, 64154 1 1 28450 1, 64155 1 1 28702 1, 64156 1 1 29038 1",
    "64157 1 1 30631 1, 64158 1 1 29237 1, 64159 1 1 29359 1, 64160 1 1 29482 1",
    "64161 1 1 29809 1, 64162 1 1 29958 1, 64163 1 1 30011 1, 64164 2 1 30237 2",
    "64166 1 1 30410 1, 64167 1 1 30427 1, 64168 1 1 30452 1, 64169 1 1 30538 1",
    "64170 1 1 30528 1, 64171 1 1 30924 1, 64172 1 1 31409 1, 64173 1 1 31680 1",
    "64174 1 1 31867 1, 64175 1 1 32091 1, 64176 1 1 32244 1, 64177 1 1 32574 1",
    "64178 1 1 32773 1, 64179 1 1 33618 1, 64180 1 1 33775 1, 64181 1 1 34681 1",
    "64182 1 1 35137 1, 64183 1 1 35206 1, 64184 1 1 35222 1, 64185 1 1 35519 1",
    "64186 1 1 35576 1, 64187 1 1 35531 1, 64188 1 1 35585 1, 64189 1 1 35582 1",
    "64190 1 1 35565 1, 64191 1 1 35641 1, 64192 1 1 35722 1, 64193 1 1 36104 1",
    "64194 1 1 36664 1, 64195 1 1 36978 1, 64196 1 1 37273 1, 64197 1 1 37494 1",
    "64198 1 1 38524 1, 64199 1 1 38627 1, 64200 1 1 38742 1, 64201 1 1 38875 1",
    "64202 1 1 38911 1, 64203 1 1 38923 1, 64204 1 1 38971 1, 64205 1 1 39698 1",
    "64206 1 1 40860 1, 64207 1 1 141386 1, 64208 1 1 141380 1, 64209 1 1 144341 1",
    "64210 1 1 15261 1, 64211 1 1 16408 1, 64212 1 1 16441 1, 64213 1 1 152137 1",
    "64214 1 1 154832 1, 64215 1 1 163539 1, 64216 1 1 40771 1, 64217 1 1 40846 1",
    "64288 1 1 1506 1, 64289 1 1 1488 1, 64290 2 1 1491 1, 64292 3 1 1499 1, 64295 2 1 1512 2",
    "64297 1 1 43 1, 64336 2 1 1649 0, 64338 4 1 1659 0, 64342 4 1 1662 0, 64346 4 1 1664 0",
    "64350 4 1 1658 0, 64354 4 1 1663 0, 64358 4 1 1657 0, 64362 4 1 1700 0, 64366 4 1 1702 0",
    "64370 4 1 1668 0, 64374 4 1 1667 0, 64378 4 1 1670 0, 64382 4 1 1671 0, 64386 2 1 1677 0",
    "64388 2 1 1676 0, 64390 2 1 1678 0, 64392 2 1 1672 0, 64394 2 1 1688 0, 64396 2 1 1681 0",
    "64398 4 1 1705 0, 64402 4 1 1711 0, 64406 4 1 1715 0, 64410 4 1 1713 0, 64414 2 1 1722 0",
    "64416 4 1 1723 0, 64420 2 1 1728 0, 64422 4 1 1729 0, 64426 4 1 1726 0, 64430 2 1 1746 0",
    "64432 2 1 1747 0, 64467 4 1 1709 0, 64471 2 1 1735 0, 64473 2 1 1734 0, 64475 2 1 1736 0",
    "64478 2 1 1739 0, 64480 2 1 1733 0, 64482 2 1 1737 0, 64484 4 1 1744 0, 64488 2 1 1609 0",
    "64508 4 1 1740 0, 65040 1 1 44 1, 65041 1 1 12289 1, 65043 2 1 58 1, 65045 1 1 33 1",
    "65046 1 1 63 1, 65047 2 1 12310 1, 65073 1 1 8212 1, 65074 1 1 8211 1, 65075 2 1 95 0",
    "65077 2 1 40 1, 65079 2 1 123 2, 65081 2 1 12308 1, 65083 2 1 12304 1, 65085 2 1 12298 1",
    "65087 2 1 12296 1, 65089 4 1 12300 1, 65095 2 1 91 2, 65101 3 1 95 0, 65104 1 1 44 1",
    "65105 1 1 12289 1, 65108 1 1 59 1, 65109 1 1 58 1, 65110 1 1 63 1, 65111 1 1 33 1",
    "65112 1 1 8212 1, 65113 2 1 40 1, 65115 2 1 123 2, 65117 2 1 12308 1, 65119 1 1 35 1",
    "65120 1 1 38 1, 65121 2 1 42 1, 65123 1 1 45 1, 65124 2 1 60 2, 65126 1 1 61 1",
    "65128 1 1 92 1, 65129 2 1 36 1, 65131 1 1 64 1, 65152 6 2 1569 1, 65153 5 2 1570 1",
    "65163 3 2 1574 1, 65164 3 2 1574 1, 65169 3 2 1576 1, 65170 3 2 1576 1, 65175 2 1 1578 0",
    "65177 4 1 1579 0, 65181 4 1 1580 0, 65185 4 1 1581 0, 65189 4 1 1582 0, 65193 5 2 1583 1",
    "65194 5 2 1583 1, 65203 2 1 1587 0, 65205 4 1 1588 0, 65209 4 1 1589 0, 65213 4 1 1590 0",
    "65217 4 1 1591 0, 65221 4 1 1592 0, 65225 4 1 1593 0, 65229 4 1 1594 0, 65233 4 1 1601 0",
    "65237 4 1 1602 0, 65241 4 1 1603 0, 65245 4 1 1604 0, 65249 4 1 1605 0, 65253 4 1 1606 0",
    "65257 4 1 1607 0, 65261 3 2 1608 1, 65262 3 2 1608 1, 65267 2 1 1610 0, 65281 32 1 33 1",
    "65313 26 1 97 1, 65339 36 1 91 1, 65375 2 1 10629 1, 65377 1 1 46 1, 65378 2 1 12300 1",
    "65380 1 1 12289 1, 65381 1 1 12539 1, 65382 1 1 12530 1, 65383 5 1 12449 2",
    "65388 3 1 12515 2, 65391 1 1 12483 1, 65392 1 1 12540 1, 65393 5 1 12450 2",
    "65398 12 1 12459 2, 65410 4 1 12484 2, 65414 5 1 12491 1, 65419 1 1 12498 1",
    "65420 1 1 12501 1, 65421 1 1 12504 1, 65422 1 1 12507 1, 65423 5 1 12510 1",
    "65428 3 1 12516 2, 65431 5 1 12521 1, 65436 1 1 12527 1, 65437 1 1 12531 1",
    "65438 2 1 12441 1, 65441 2 1 4352 1, 65443 2 2 4522 2, 65444 1 1 4354 1, 65446 1 1 4525 1",
    "65447 3 1 4355 1, 65450 6 1 4528 1, 65456 1 1 4378 1, 65457 3 1 4358 1, 65460 1 1 4385 1",
    "65461 10 1 4361 1, 65474 6 1 4449 1, 65482 6 1 4455 1, 65490 6 1 4461 1, 65498 3 1 4467 1",
    "65504 2 1 162 1, 65506 1 1 172 1, 65508 1 1 166 1, 65509 1 1 165 1, 65510 1 1 8361 1",
    "65512 1 1 9474 1, 65513 4 1 8592 1, 65517 1 1 9632 1, 65518 1 1 9675 1, 66560 40 1 66600 1",
    "66736 36 1 66776 1, 66928 19 2 66967 2, 66929 5 2 66968 2, 66941 7 2 66980 2",
    "66957 3 2 66996 2, 66965 1 1 67004 1, 67457 2 1 720 1, 67459 1 1 230 1, 67460 1 1 665 1",
    "67461 1 1 595 1, 67463 2 2 675 2, 67464 1 1 43878 1, 67466 1 1 676 1, 67467 2 1 598 1",
    "67469 1 1 7569 1, 67470 1 1 600 1, 67471 1 1 606 1, 67472 1 1 681 1, 67473 1 1 612 1",
    "67474 1 1 610 1, 67475 1 1 608 1, 67476 2 2 667 1, 67477 1 1 295 1, 67479 1 1 615 1",
    "67480 1 1 644 1, 67481 2 1 682 1, 67483 1 1 620 1, 67484 1 1 122628 1, 67485 1 1 42894 1",
    "67486 1 1 622 1, 67487 2 2 122629 1, 67488 1 1 654 1, 67490 1 1 248 1, 67491 2 1 630 1",
    "67493 1 1 113 1, 67494 1 1 634 1, 67495 1 1 122632 1, 67496 2 1 637 1, 67498 1 1 640 1",
    "67499 1 1 680 1, 67500 2 2 678 1, 67501 1 1 43879 1, 67503 1 1 648 1, 67504 1 1 11377 1",
    "67506 1 1 655 1, 67507 2 1 673 1, 67509 1 1 664 1, 67510 3 1 448 1, 67513 1 1 122634 1",
    "67514 1 1 122654 1, 68736 51 1 68800 1, 68944 22 1 68976 1, 71840 32 1 71872 1",
    "93760 32 1 93792 1, 93856 25 1 93883 1, 117974 26 1 97 1, 118000 10 1 48 1, 119808 26 1 97 1",
    "119834 26 1 97 1, 119860 26 1 97 1, 119886 13 2 97 2, 119887 3 2 98 2, 119895 9 2 106 2",
    "119912 26 1 97 1, 119938 26 1 97 1, 119964 2 2 97 2, 119967 1 1 100 1, 119970 1 1 103 1",
    "119973 2 1 106 1, 119977 4 1 110 1, 119982 8 1 115 1, 119990 4 1 97 1, 119995 11 2 102 2",
    "119998 3 2 105 2, 120006 5 2 113 2, 120016 26 1 97 1, 120042 26 1 97 1, 120068 2 1 97 1",
    "120071 4 1 100 1, 120077 8 1 106 1, 120086 7 1 115 1, 120094 26 1 97 1, 120120 2 1 97 1",
    "120123 4 1 100 1, 120128 5 1 105 1, 120134 1 1 111 1, 120138 7 1 115 1, 120146 26 1 97 1",
    "120172 26 1 97 1, 120198 26 1 97 1, 120224 26 1 97 1, 120250 26 1 97 1, 120276 26 1 97 1",
    "120302 26 1 97 1, 120328 26 1 97 1, 120354 26 1 97 1, 120380 26 1 97 1, 120406 26 1 97 1",
    "120432 26 1 97 1, 120458 26 1 97 1, 120484 1 1 305 1, 120485 1 1 567 1, 120488 17 1 945 1",
    "120505 1 1 952 1, 120506 7 1 963 1, 120513 1 1 8711 1, 120514 17 1 945 1, 120531 2 1 963 0",
    "120533 6 1 964 1, 120539 1 1 8706 1, 120540 1 1 949 1, 120541 2 1 952 2, 120543 1 1 966 1",
    "120544 1 1 961 1, 120545 1 1 960 1, 120546 17 1 945 1, 120563 1 1 952 1, 120564 7 1 963 1",
    "120571 1 1 8711 1, 120572 17 1 945 1, 120589 2 1 963 0, 120591 6 1 964 1, 120597 1 1 8706 1",
    "120598 1 1 949 1, 120599 2 1 952 2, 120601 1 1 966 1, 120602 1 1 961 1, 120603 1 1 960 1",
    "120604 17 1 945 1, 120621 1 1 952 1, 120622 7 1 963 1, 120629 1 1 8711 1, 120630 17 1 945 1",
    "120647 2 1 963 0, 120649 6 1 964 1, 120655 1 1 8706 1, 120656 1 1 949 1, 120657 2 1 952 2",
    "120659 1 1 966 1, 120660 1 1 961 1, 120661 1 1 960 1, 120662 17 1 945 1, 120679 1 1 952 1",
    "120680 7 1 963 1, 120687 1 1 8711 1, 120688 17 1 945 1, 120705 2 1 963 0, 120707 6 1 964 1",
    "120713 1 1 8706 1, 120714 1 1 949 1, 120715 2 1 952 2, 120717 1 1 966 1, 120718 1 1 961 1",
    "120719 1 1 960 1, 120720 17 1 945 1, 120737 1 1 952 1, 120738 7 1 963 1, 120745 1 1 8711 1",
    "120746 17 1 945 1, 120763 2 1 963 0, 120765 6 1 964 1, 120771 1 1 8706 1, 120772 1 1 949 1",
    "120773 2 1 952 2, 120775 1 1 966 1, 120776 1 1 961 1, 120777 1 1 960 1, 120778 2 1 989 0",
    "120782 10 1 48 1, 120792 10 1 48 1, 120802 10 1 48 1, 120812 10 1 48 1, 120822 10 1 48 1",
    "122928 9 1 1072 1, 122937 3 1 1082 1, 122940 11 1 1086 1, 122951 2 1 1099 2",
    "122953 1 1 1102 1, 122954 1 1 42633 1, 122955 1 1 1241 1, 122956 2 1 1110 2",
    "122958 1 1 1257 1, 122959 1 1 1199 1, 122960 1 1 1231 1, 122961 9 1 1072 1",
    "122970 2 1 1082 1, 122972 2 1 1086 1, 122974 2 1 1089 2, 122976 5 1 1092 1",
    "122981 2 1 1098 1, 122983 1 1 1169 1, 122984 1 1 1110 1, 122985 1 1 1109 1",
    "122986 1 1 1119 1, 122987 1 1 1195 1, 122988 1 1 42577 1, 122989 1 1 1201 1",
    "125184 34 1 125218 1, 126464 2 1 1575 1, 126466 1 1 1580 1, 126467 1 1 1583 1",
    "126469 1 1 1608 1, 126470 1 1 1586 1, 126471 1 1 1581 1, 126472 1 1 1591 1",
    "126473 1 1 1610 1, 126474 4 1 1603 1, 126478 1 1 1587 1, 126479 1 1 1593 1",
    "126480 2 2 1601 1, 126481 1 1 1589 1, 126483 1 1 1585 1, 126484 1 1 1588 1",
    "126485 2 1 1578 1, 126487 2 1 1582 2, 126489 3 1 1590 2, 126492 1 1 1646 1",
    "126493 1 1 1722 1, 126494 1 1 1697 1, 126495 1 1 1647 1, 126497 1 1 1576 1",
    "126498 1 1 1580 1, 126500 1 1 1607 1, 126503 1 1 1581 1, 126505 1 1 1610 1",
    "126506 4 1 1603 1, 126510 1 1 1587 1, 126511 1 1 1593 1, 126512 2 2 1601 1",
    "126513 1 1 1589 1, 126516 1 1 1588 1, 126517 2 1 1578 1, 126519 1 1 1582 1",
    "126521 1 1 1590 1, 126523 1 1 1594 1, 126530 1 1 1580 1, 126535 1 1 1581 1",
    "126537 1 1 1610 1, 126539 2 2 1604 2, 126542 1 1 1587 1, 126543 1 1 1593 1",
    "126545 1 1 1589 1, 126546 1 1 1602 1, 126548 1 1 1588 1, 126551 1 1 1582 1",
    "126553 1 1 1590 1, 126555 1 1 1594 1, 126557 1 1 1722 1, 126559 1 1 1647 1",
    "126561 1 1 1576 1, 126562 1 1 1580 1, 126564 1 1 1607 1, 126567 1 1 1581 1",
    "126568 1 1 1591 1, 126569 1 1 1610 1, 126570 2 2 1603 2, 126573 1 1 1606 1",
    "126574 1 1 1587 1, 126575 1 1 1593 1, 126576 2 2 1601 1, 126577 1 1 1589 1",
    "126580 1 1 1588 1, 126581 2 1 1578 1, 126583 1 1 1582 1, 126585 3 1 1590 2",
    "126588 1 1 1646 1, 126590 1 1 1697 1, 126592 2 1 1575 1, 126594 1 1 1580 1",
    "126595 1 1 1583 1, 126596 2 1 1607 1, 126598 1 1 1586 1, 126599 1 1 1581 1",
    "126600 1 1 1591 1, 126601 1 1 1610 1, 126603 3 1 1604 1, 126606 1 1 1587 1",
    "126607 1 1 1593 1, 126608 2 2 1601 1, 126609 1 1 1589 1, 126611 1 1 1585 1",
    "126612 1 1 1588 1, 126613 2 1 1578 1, 126615 2 1 1582 2, 126617 3 1 1590 2",
    "126625 1 1 1576 1, 126626 1 1 1580 1, 126627 1 1 1583 1, 126629 1 1 1608 1",
    "126630 1 1 1586 1, 126631 1 1 1581 1, 126632 1 1 1591 1, 126633 1 1 1610 1",
    "126635 3 1 1604 1, 126638 1 1 1587 1, 126639 1 1 1593 1, 126640 2 2 1601 1",
    "126641 1 1 1589 1, 126643 1 1 1585 1, 126644 1 1 1588 1, 126645 2 1 1578 1",
    "126647 2 1 1582 2, 126649 3 1 1590 2, 127275 1 1 99 1, 127276 1 1 114 1, 127280 26 1 97 1",
    "127490 1 1 12469 1, 127504 1 1 25163 1, 127505 1 1 23383 1, 127506 1 1 21452 1",
    "127507 1 1 12487 1, 127508 1 1 20108 1, 127509 1 1 22810 1, 127510 1 1 35299 1",
    "127511 1 1 22825 1, 127512 1 1 20132 1, 127513 1 1 26144 1, 127514 1 1 28961 1",
    "127515 1 1 26009 1, 127516 1 1 21069 1, 127517 1 1 24460 1, 127518 1 1 20877 1",
    "127519 1 1 26032 1, 127520 1 1 21021 1, 127521 1 1 32066 1, 127522 1 1 29983 1",
    "127523 1 1 36009 1, 127524 1 1 22768 1, 127525 1 1 21561 1, 127526 1 1 28436 1",
    "127527 1 1 25237 1, 127528 1 1 25429 1, 127529 1 1 19968 1, 127530 1 1 19977 1",
    "127531 1 1 36938 1, 127532 1 1 24038 1, 127533 1 1 20013 1, 127534 1 1 21491 1",
    "127535 1 1 25351 1, 127536 1 1 36208 1, 127537 1 1 25171 1, 127538 1 1 31105 1",
    "127539 1 1 31354 1, 127540 1 1 21512 1, 127541 1 1 28288 1, 127542 1 1 26377 1",
    "127543 1 1 26376 1, 127544 1 1 30003 1, 127545 1 1 21106 1, 127546 1 1 21942 1",
    "127547 1 1 37197 1, 127568 1 1 24471 1, 127569 1 1 21487 1, 130032 10 1 48 1",
    "194560 1 1 20029 1, 194561 1 1 20024 1, 194562 1 1 20033 1, 194563 1 1 131362 1",
    "194564 1 1 20320 1, 194565 1 1 20398 1, 194566 1 1 20411 1, 194567 1 1 20482 1",
    "194568 1 1 20602 1, 194569 1 1 20633 1, 194570 1 1 20711 1, 194571 1 1 20687 1",
    "194572 1 1 13470 1, 194573 1 1 132666 1, 194574 1 1 20813 1, 194575 1 1 20820 1",
    "194576 1 1 20836 1, 194577 1 1 20855 1, 194578 1 1 132380 1, 194579 1 1 13497 1",
    "194580 1 1 20839 1, 194581 1 1 20877 1, 194582 1 1 132427 1, 194583 1 1 20887 1",
    "194584 1 1 20900 1, 194585 1 1 20172 1, 194586 1 1 20908 1, 194587 1 1 20917 1",
    "194588 1 1 168415 1, 194589 1 1 20981 1, 194590 1 1 20995 1, 194591 1 1 13535 1",
    "194592 1 1 21051 1, 194593 1 1 21062 1, 194594 1 1 21106 1, 194595 1 1 21111 1",
    "194596 1 1 13589 1, 194597 2 1 21191 2, 194599 1 1 21220 1, 194600 1 1 21242 1",
    "194601 2 1 21253 1, 194603 1 1 21271 1, 194604 1 1 21321 1, 194605 1 1 21329 1",
    "194606 1 1 21338 1, 194607 1 1 21363 1, 194608 2 1 21373 2, 194610 2 1 21375 0",
    "194612 1 1 133676 1, 194613 1 1 28784 1, 194614 1 1 21450 1, 194615 1 1 21471 1",
    "194616 1 1 133987 1, 194617 1 1 21483 1, 194618 1 1 21489 1, 194619 1 1 21510 1",
    "194620 1 1 21662 1, 194621 1 1 21560 1, 194622 1 1 21576 1, 194623 1 1 21608 1",
    "194624 1 1 21666 1, 194625 1 1 21750 1, 194626 1 1 21776 1, 194627 1 1 21843 1",
    "194628 1 1 21859 1, 194629 2 1 21892 0, 194631 1 1 21913 1, 194632 1 1 21931 1",
    "194633 1 1 21939 1, 194634 1 1 21954 1, 194635 2 2 22294 1, 194636 1 1 22022 1",
    "194638 1 1 22097 1, 194639 1 1 22132 1, 194640 1 1 20999 1, 194641 1 1 22766 1",
    "194642 1 1 22478 1, 194643 1 1 22516 1, 194644 1 1 22541 1, 194645 1 1 22411 1",
    "194646 1 1 22578 1, 194647 1 1 22577 1, 194648 1 1 22700 1, 194649 1 1 136420 1",
    "194650 1 1 22770 1, 194651 1 1 22775 1, 194652 1 1 22790 1, 194653 1 1 22810 1",
    "194654 1 1 22818 1, 194655 1 1 22882 1, 194656 1 1 136872 1, 194657 1 1 136938 1",
    "194658 1 1 23020 1, 194659 1 1 23067 1, 194660 1 1 23079 1, 194661 1 1 23000 1",
    "194662 1 1 23142 1, 194663 1 1 14062 1, 194664 1 1 14076 1, 194665 1 1 23304 1",
    "194666 2 1 23358 0, 194668 1 1 137672 1, 194669 1 1 23491 1, 194670 1 1 23512 1",
    "194671 1 1 23527 1, 194672 1 1 23539 1, 194673 1 1 138008 1, 194674 1 1 23551 1",
    "194675 1 1 23558 1, 194676 1 1 24403 1, 194677 1 1 23586 1, 194678 1 1 14209 1",
    "194679 1 1 23648 1, 194680 1 1 23662 1, 194681 1 1 23744 1, 194682 1 1 23693 1",
    "194683 2 2 138724 2, 194684 1 1 23875 1, 194686 1 1 23918 1, 194687 1 1 23915 1",
    "194688 1 1 23932 1, 194689 2 1 24033 1, 194691 1 1 14383 1, 194692 1 1 24061 1",
    "194693 1 1 24104 1, 194694 1 1 24125 1, 194695 1 1 24169 1, 194696 1 1 14434 1",
    "194697 1 1 139651 1, 194698 1 1 14460 1, 194699 1 1 24240 1, 194700 1 1 24243 1",
    "194701 1 1 24246 1, 194702 1 1 24266 1, 194703 1 1 172946 1, 194704 1 1 24318 1",
    "194705 2 1 140081 0, 194707 1 1 33281 1, 194708 2 1 24354 0, 194710 1 1 14535 1",
    "194711 1 1 144056 1, 194712 1 1 156122 1, 194713 1 1 24418 1, 194714 1 1 24427 1",
    "194715 1 1 14563 1, 194716 1 1 24474 1, 194717 1 1 24525 1, 194718 1 1 24535 1",
    "194719 1 1 24569 1, 194720 1 1 24705 1, 194721 1 1 14650 1, 194722 1 1 14620 1",
    "194723 1 1 24724 1, 194724 1 1 141012 1, 194725 1 1 24775 1, 194726 1 1 24904 1",
    "194727 2 1 24908 2, 194729 1 1 24908 1, 194730 1 1 24954 1, 194731 1 1 24974 1",
    "194732 1 1 25010 1, 194733 1 1 24996 1, 194734 1 1 25007 1, 194735 1 1 25054 1",
    "194736 1 1 25074 1, 194737 1 1 25078 1, 194738 1 1 25104 1, 194739 1 1 25115 1",
    "194740 1 1 25181 1, 194741 1 1 25265 1, 194742 1 1 25300 1, 194743 1 1 25424 1",
    "194744 1 1 142092 1, 194745 1 1 25405 1, 194746 1 1 25340 1, 194747 1 1 25448 1",
    "194748 1 1 25475 1, 194749 1 1 25572 1, 194750 1 1 142321 1, 194751 1 1 25634 1",
    "194752 1 1 25541 1, 194753 1 1 25513 1, 194754 1 1 14894 1, 194755 1 1 25705 1",
    "194756 1 1 25726 1, 194757 1 1 25757 1, 194758 1 1 25719 1, 194759 1 1 14956 1",
    "194760 1 1 25935 1, 194761 1 1 25964 1, 194762 1 1 143370 1, 194763 1 1 26083 1",
    "194764 1 1 26360 1, 194765 1 1 26185 1, 194766 1 1 15129 1, 194767 1 1 26257 1",
    "194768 1 1 15112 1, 194769 1 1 15076 1, 194770 1 1 20882 1, 194771 1 1 20885 1",
    "194772 1 1 26368 1, 194773 1 1 26268 1, 194774 1 1 32941 1, 194775 1 1 17369 1",
    "194776 1 1 26391 1, 194777 1 1 26395 1, 194778 1 1 26401 1, 194779 1 1 26462 1",
    "194780 1 1 26451 1, 194781 1 1 144323 1, 194782 1 1 15177 1, 194783 1 1 26618 1",
    "194784 1 1 26501 1, 194785 1 1 26706 1, 194786 1 1 26757 1, 194787 1 1 144493 1",
    "194788 1 1 26766 1, 194789 1 1 26655 1, 194790 1 1 26900 1, 194791 1 1 15261 1",
    "194792 1 1 26946 1, 194793 1 1 27043 1, 194794 1 1 27114 1, 194795 1 1 27304 1",
    "194796 1 1 145059 1, 194797 1 1 27355 1, 194798 1 1 15384 1, 194799 1 1 27425 1",
    "194800 1 1 145575 1, 194801 1 1 27476 1, 194802 1 1 15438 1, 194803 1 1 27506 1",
    "194804 1 1 27551 1, 194805 2 1 27578 1, 194807 1 1 146061 1, 194808 1 1 138507 1",
    "194809 1 1 146170 1, 194810 1 1 27726 1, 194811 1 1 146620 1, 194812 1 1 27839 1",
    "194813 1 1 27853 1, 194814 1 1 27751 1, 194815 1 1 27926 1, 194816 1 1 27966 1",
    "194817 1 1 28023 1, 194818 1 1 27969 1, 194819 1 1 28009 1, 194820 1 1 28024 1",
    "194821 1 1 28037 1, 194822 1 1 146718 1, 194823 1 1 27956 1, 194824 1 1 28207 1",
    "194825 1 1 28270 1, 194826 1 1 15667 1, 194827 1 1 28363 1, 194828 1 1 28359 1",
    "194829 1 1 147153 1, 194830 1 1 28153 1, 194831 1 1 28526 1, 194832 1 1 147294 1",
    "194833 1 1 147342 1, 194834 1 1 28614 1, 194835 1 1 28729 1, 194836 1 1 28702 1",
    "194837 1 1 28699 1, 194838 1 1 15766 1, 194839 1 1 28746 1, 194840 1 1 28797 1",
    "194841 1 1 28791 1, 194842 1 1 28845 1, 194843 1 1 132389 1, 194844 1 1 28997 1",
    "194845 1 1 148067 1, 194846 1 1 29084 1, 194847 1 1 148395 1, 194848 1 1 29224 1",
    "194849 1 1 29237 1, 194850 1 1 29264 1, 194851 1 1 149000 1, 194852 1 1 29312 1",
    "194853 1 1 29333 1, 194854 1 1 149301 1, 194855 1 1 149524 1, 194856 1 1 29562 1",
    "194857 1 1 29579 1, 194858 1 1 16044 1, 194859 1 1 29605 1, 194860 2 1 16056 0",
    "194862 1 1 29767 1, 194863 1 1 29788 1, 194864 1 1 29809 1, 194865 1 1 29829 1",
    "194866 1 1 29898 1, 194867 1 1 16155 1, 194868 1 1 29988 1, 194869 1 1 150582 1",
    "194870 1 1 30014 1, 194871 1 1 150674 1, 194872 1 1 30064 1, 194873 1 1 139679 1",
    "194874 1 1 30224 1, 194875 1 1 151457 1, 194876 1 1 151480 1, 194877 1 1 151620 1",
    "194878 1 1 16380 1, 194879 1 1 16392 1, 194880 1 1 30452 1, 194881 1 1 151795 1",
    "194882 1 1 151794 1, 194883 1 1 151833 1, 194884 1 1 151859 1, 194885 2 1 30494 1",
    "194887 1 1 30495 1, 194888 1 1 30538 1, 194889 1 1 16441 1, 194890 1 1 30603 1",
    "194891 1 1 16454 1, 194892 1 1 16534 1, 194893 1 1 152605 1, 194894 1 1 30798 1",
    "194895 1 1 30860 1, 194896 1 1 30924 1, 194897 1 1 16611 1, 194898 1 1 153126 1",
    "194899 1 1 31062 1, 194900 1 1 153242 1, 194901 1 1 153285 1, 194902 1 1 31119 1",
    "194903 1 1 31211 1, 194904 1 1 16687 1, 194905 1 1 31296 1, 194906 1 1 31306 1",
    "194907 1 1 31311 1, 194908 1 1 153980 1, 194909 2 1 154279 0, 194911 1 1 31470 1",
    "194912 1 1 16898 1, 194913 1 1 154539 1, 194914 1 1 31686 1, 194915 1 1 31689 1",
    "194916 1 1 16935 1, 194917 1 1 154752 1, 194918 1 1 31954 1, 194919 1 1 17056 1",
    "194920 1 1 31976 1, 194921 1 1 31971 1, 194922 1 1 32000 1, 194923 1 1 155526 1",
    "194924 1 1 32099 1, 194925 1 1 17153 1, 194926 1 1 32199 1, 194927 1 1 32258 1",
    "194928 1 1 32325 1, 194929 1 1 17204 1, 194930 1 1 156200 1, 194931 1 1 156231 1",
    "194932 1 1 17241 1, 194933 1 1 156377 1, 194934 1 1 32634 1, 194935 1 1 156478 1",
    "194936 1 1 32661 1, 194937 1 1 32762 1, 194938 1 1 32773 1, 194939 1 1 156890 1",
    "194940 1 1 156963 1, 194941 1 1 32864 1, 194942 1 1 157096 1, 194943 1 1 32880 1",
    "194944 1 1 144223 1, 194945 1 1 17365 1, 194946 1 1 32946 1, 194947 1 1 33027 1",
    "194948 1 1 17419 1, 194949 1 1 33086 1, 194950 1 1 23221 1, 194951 1 1 157607 1",
    "194952 1 1 157621 1, 194953 1 1 144275 1, 194954 1 1 144284 1, 194955 1 1 33281 1",
    "194956 1 1 33284 1, 194957 1 1 36766 1, 194958 1 1 17515 1, 194959 1 1 33425 1",
    "194960 1 1 33419 1, 194961 1 1 33437 1, 194962 1 1 21171 1, 194963 2 1 33457 2",
    "194965 1 1 33469 1, 194966 1 1 33510 1, 194967 1 1 158524 1, 194968 1 1 33509 1",
    "194969 1 1 33565 1, 194970 1 1 33635 1, 194971 1 1 33709 1, 194972 1 1 33571 1",
    "194973 1 1 33725 1, 194974 1 1 33767 1, 194975 1 1 33879 1, 194976 1 1 33619 1",
    "194977 2 1 33738 2, 194979 1 1 33756 1, 194980 1 1 158774 1, 194981 1 1 159083 1",
    "194982 1 1 158933 1, 194983 1 1 17707 1, 194984 2 1 34033 2, 194986 1 1 34070 1",
    "194987 1 1 160714 1, 194988 1 1 34148 1, 194989 1 1 159532 1, 194990 1 1 17757 1",
    "194991 1 1 17761 1, 194992 1 1 159665 1, 194993 1 1 159954 1, 194994 1 1 17771 1",
    "194995 1 1 34384 1, 194996 1 1 34396 1, 194997 2 1 34407 2, 194999 1 1 34473 1",
    "195000 1 1 34440 1, 195001 1 1 34574 1, 195002 1 1 34530 1, 195003 1 1 34681 1",
    "195004 1 1 34600 1, 195005 1 1 34667 1, 195006 1 1 34694 1, 195007 1 1 17879 1",
    "195008 1 1 34785 1, 195009 1 1 34817 1, 195010 1 1 17913 1, 195011 1 1 34912 1",
    "195012 1 1 34915 1, 195013 1 1 161383 1, 195014 1 1 35031 1, 195015 1 1 35038 1",
    "195016 1 1 17973 1, 195017 1 1 35066 1, 195018 1 1 13499 1, 195019 1 1 161966 1",
    "195020 1 1 162150 1, 195021 1 1 18110 1, 195022 1 1 18119 1, 195023 1 1 35488 1",
    "195024 1 1 35565 1, 195025 1 1 35722 1, 195026 1 1 35925 1, 195027 1 1 162984 1",
    "195028 1 1 36011 1, 195029 1 1 36033 1, 195030 1 1 36123 1, 195031 1 1 36215 1",
    "195032 1 1 163631 1, 195033 1 1 133124 1, 195034 1 1 36299 1, 195035 1 1 36284 1",
    "195036 1 1 36336 1, 195037 1 1 133342 1, 195038 1 1 36564 1, 195039 1 1 36664 1",
    "195040 1 1 165330 1, 195041 1 1 165357 1, 195042 1 1 37012 1, 195043 1 1 37105 1",
    "195044 1 1 37137 1, 195045 1 1 165678 1, 195046 1 1 37147 1, 195047 1 1 37432 1",
    "195048 2 1 37591 1, 195050 1 1 37500 1, 195051 1 1 37881 1, 195052 1 1 37909 1",
    "195053 1 1 166906 1, 195054 1 1 38283 1, 195055 1 1 18837 1, 195056 1 1 38327 1",
    "195057 1 1 167287 1, 195058 1 1 18918 1, 195059 1 1 38595 1, 195060 1 1 23986 1",
    "195061 1 1 38691 1, 195062 1 1 168261 1, 195063 1 1 168474 1, 195064 1 1 19054 1",
    "195065 1 1 19062 1, 195066 1 1 38880 1, 195067 1 1 168970 1, 195068 1 1 19122 1",
    "195069 1 1 169110 1, 195070 2 1 38923 0, 195072 1 1 38953 1, 195073 1 1 169398 1",
    "195074 1 1 39138 1, 195075 1 1 19251 1, 195076 1 1 39209 1, 195077 1 1 39335 1",
    "195078 1 1 39362 1, 195079 1 1 39422 1, 195080 1 1 19406 1, 195081 1 1 170800 1",
    "195082 1 1 39698 1, 195083 1 1 40000 1, 195084 1 1 40189 1, 195085 1 1 19662 1",
    "195086 1 1 19693 1, 195087 1 1 40295 1, 195088 1 1 172238 1, 195089 1 1 19704 1",
    "195090 1 1 172293 1, 195091 1 1 172558 1, 195092 1 1 172689 1, 195093 1 1 40635 1",
    "195094 1 1 19798 1, 195095 1 1 40697 1, 195096 1 1 40702 1, 195097 1 1 40709 1",
    "195098 1 1 40719 1, 195099 1 1 40726 1, 195100 1 1 40763 1, 195101 1 1 173568 1"]

def domainLong : List (Nat × List Nat) :=
  (numeralGroups domainLongLines).filterMap fun
    | first :: target => some (first, target)
    | [] => none
where
  /-- A character and its replacement. -/
  domainLongLines : List String := [
    "168 32 776, 175 32 772, 180 32 769, 184 32 807, 188 49 8260 52, 189 49 8260 50",
    "190 51 8260 52, 304 105 775, 306 105 106, 307 105 106, 319 108 183, 320 108 183, 329 700 110",
    "452 100 382, 453 100 382, 454 100 382, 455 108 106, 456 108 106, 457 108 106, 458 110 106",
    "459 110 106, 460 110 106, 497 100 122, 498 100 122, 499 100 122, 728 32 774, 729 32 775",
    "730 32 778, 731 32 808, 732 32 771, 733 32 779, 836 776 769, 890 32 953, 900 32 769",
    "901 32 776 769, 1415 1381 1410, 1653 1575 1652, 1654 1608 1652, 1655 1735 1652",
    "1656 1610 1652, 2392 2325 2364, 2393 2326 2364, 2394 2327 2364, 2395 2332 2364",
    "2396 2337 2364, 2397 2338 2364, 2398 2347 2364, 2399 2351 2364, 2524 2465 2492",
    "2525 2466 2492, 2527 2479 2492, 2611 2610 2620, 2614 2616 2620, 2649 2582 2620",
    "2650 2583 2620, 2651 2588 2620, 2654 2603 2620, 2908 2849 2876, 2909 2850 2876",
    "3635 3661 3634, 3763 3789 3762, 3804 3755 3737, 3805 3755 3745, 3907 3906 4023",
    "3917 3916 4023, 3922 3921 4023, 3927 3926 4023, 3932 3931 4023, 3945 3904 4021",
    "3955 3953 3954, 3957 3953 3956, 3958 4018 3968, 3959 4018 3953 3968, 3960 4019 3968",
    "3961 4019 3953 3968, 3969 3953 3968, 3987 3986 4023, 3997 3996 4023, 4002 4001 4023",
    "4007 4006 4023, 4012 4011 4023, 4025 3984 4021, 7834 97 702, 8064 7936 953, 8065 7937 953",
    "8066 7938 953, 8067 7939 953, 8068 7940 953, 8069 7941 953, 8070 7942 953, 8071 7943 953",
    "8072 7936 953, 8073 7937 953, 8074 7938 953, 8075 7939 953, 8076 7940 953, 8077 7941 953",
    "8078 7942 953, 8079 7943 953, 8080 7968 953, 8081 7969 953, 8082 7970 953, 8083 7971 953",
    "8084 7972 953, 8085 7973 953, 8086 7974 953, 8087 7975 953, 8088 7968 953, 8089 7969 953",
    "8090 7970 953, 8091 7971 953, 8092 7972 953, 8093 7973 953, 8094 7974 953, 8095 7975 953",
    "8096 8032 953, 8097 8033 953, 8098 8034 953, 8099 8035 953, 8100 8036 953, 8101 8037 953",
    "8102 8038 953, 8103 8039 953, 8104 8032 953, 8105 8033 953, 8106 8034 953, 8107 8035 953",
    "8108 8036 953, 8109 8037 953, 8110 8038 953, 8111 8039 953, 8114 8048 953, 8115 945 953",
    "8116 940 953, 8119 8118 953, 8124 945 953, 8125 32 787, 8127 32 787, 8128 32 834",
    "8129 32 776 834, 8130 8052 953, 8131 951 953, 8132 942 953, 8135 8134 953, 8140 951 953",
    "8141 32 787 768, 8142 32 787 769, 8143 32 787 834, 8157 32 788 768, 8158 32 788 769",
    "8159 32 788 834, 8173 32 776 768, 8174 32 776 769, 8178 8060 953, 8179 969 953, 8180 974 953",
    "8183 8182 953, 8188 969 953, 8189 32 769, 8190 32 788, 8215 32 819, 8243 8242 8242",
    "8244 8242 8242 8242, 8246 8245 8245, 8247 8245 8245 8245, 8252 33 33, 8254 32 773",
    "8263 63 63, 8264 63 33, 8265 33 63, 8279 8242 8242 8242 8242, 8360 114 115, 8448 97 47 99",
    "8449 97 47 115, 8451 176 99, 8453 99 47 111, 8454 99 47 117, 8457 176 102, 8470 110 111",
    "8480 115 109, 8481 116 101 108, 8482 116 109, 8507 102 97 120, 8528 49 8260 55",
    "8529 49 8260 57, 8530 49 8260 49 48, 8531 49 8260 51, 8532 50 8260 51, 8533 49 8260 53",
    "8534 50 8260 53, 8535 51 8260 53, 8536 52 8260 53, 8537 49 8260 54, 8538 53 8260 54",
    "8539 49 8260 56, 8540 51 8260 56, 8541 53 8260 56, 8542 55 8260 56, 8543 49 8260",
    "8545 105 105, 8546 105 105 105, 8547 105 118, 8549 118 105, 8550 118 105 105",
    "8551 118 105 105 105, 8552 105 120, 8554 120 105, 8555 120 105 105, 8561 105 105",
    "8562 105 105 105, 8563 105 118, 8565 118 105, 8566 118 105 105, 8567 118 105 105 105",
    "8568 105 120, 8570 120 105, 8571 120 105 105, 8585 48 8260 51, 8748 8747 8747",
    "8749 8747 8747 8747, 8751 8750 8750, 8752 8750 8750 8750, 9321 49 48, 9322 49 49, 9323 49 50",
    "9324 49 51, 9325 49 52, 9326 49 53, 9327 49 54, 9328 49 55, 9329 49 56, 9330 49 57",
    "9331 50 48, 9332 40 49 41, 9333 40 50 41, 9334 40 51 41, 9335 40 52 41, 9336 40 53 41",
    "9337 40 54 41, 9338 40 55 41, 9339 40 56 41, 9340 40 57 41, 9341 40 49 48 41",
    "9342 40 49 49 41, 9343 40 49 50 41, 9344 40 49 51 41, 9345 40 49 52 41, 9346 40 49 53 41",
    "9347 40 49 54 41, 9348 40 49 55 41, 9349 40 49 56 41, 9350 40 49 57 41, 9351 40 50 48 41",
    "9372 40 97 41, 9373 40 98 41, 9374 40 99 41, 9375 40 100 41, 9376 40 101 41, 9377 40 102 41",
    "9378 40 103 41, 9379 40 104 41, 9380 40 105 41, 9381 40 106 41, 9382 40 107 41",
    "9383 40 108 41, 9384 40 109 41, 9385 40 110 41, 9386 40 111 41, 9387 40 112 41",
    "9388 40 113 41, 9389 40 114 41, 9390 40 115 41, 9391 40 116 41, 9392 40 117 41",
    "9393 40 118 41, 9394 40 119 41, 9395 40 120 41, 9396 40 121 41, 9397 40 122 41",
    "10764 8747 8747 8747 8747, 10868 58 58 61, 10869 61 61, 10870 61 61 61, 10972 10973 824",
    "12443 32 12441, 12444 32 12442, 12447 12424 12426, 12543 12467 12488, 12800 40 4352 41",
    "12801 40 4354 41, 12802 40 4355 41, 12803 40 4357 41, 12804 40 4358 41, 12805 40 4359 41",
    "12806 40 4361 41, 12807 40 4363 41, 12808 40 4364 41, 12809 40 4366 41, 12810 40 4367 41",
    "12811 40 4368 41, 12812 40 4369 41, 12813 40 4370 41, 12814 40 44032 41, 12815 40 45208 41",
    "12816 40 45796 41, 12817 40 46972 41, 12818 40 47560 41, 12819 40 48148 41",
    "12820 40 49324 41, 12821 40 50500 41, 12822 40 51088 41, 12823 40 52264 41",
    "12824 40 52852 41, 12825 40 53440 41, 12826 40 54028 41, 12827 40 54616 41",
    "12828 40 51452 41, 12829 40 50724 51204 41, 12830 40 50724 54980 41, 12832 40 19968 41",
    "12833 40 20108 41, 12834 40 19977 41, 12835 40 22235 41, 12836 40 20116 41",
    "12837 40 20845 41, 12838 40 19971 41, 12839 40 20843 41, 12840 40 20061 41",
    "12841 40 21313 41, 12842 40 26376 41, 12843 40 28779 41, 12844 40 27700 41",
    "12845 40 26408 41, 12846 40 37329 41, 12847 40 22303 41, 12848 40 26085 41",
    "12849 40 26666 41, 12850 40 26377 41, 12851 40 31038 41, 12852 40 21517 41",
    "12853 40 29305 41, 12854 40 36001 41, 12855 40 31069 41, 12856 40 21172 41",
    "12857 40 20195 41, 12858 40 21628 41, 12859 40 23398 41, 12860 40 30435 41",
    "12861 40 20225 41, 12862 40 36039 41, 12863 40 21332 41, 12864 40 31085 41",
    "12865 40 20241 41, 12866 40 33258 41, 12867 40 33267 41, 12880 112 116 101, 12881 50 49",
    "12882 50 50, 12883 50 51, 12884 50 52, 12885 50 53, 12886 50 54, 12887 50 55, 12888 50 56",
    "12889 50 57, 12890 51 48, 12891 51 49, 12892 51 50, 12893 51 51, 12894 51 52, 12895 51 53",
    "12924 52280 44256, 12925 51452 51032, 12977 51 54, 12978 51 55, 12979 51 56, 12980 51 57",
    "12981 52 48, 12982 52 49, 12983 52 50, 12984 52 51, 12985 52 52, 12986 52 53, 12987 52 54",
    "12988 52 55, 12989 52 56, 12990 52 57, 12991 53 48, 12992 49 26376, 12993 50 26376",
    "12994 51 26376, 12995 52 26376, 12996 53 26376, 12997 54 26376, 12998 55 26376",
    "12999 56 26376, 13000 57 26376, 13001 49 48 26376, 13002 49 49 26376, 13003 49 50 26376",
    "13004 104 103, 13005 101 114 103, 13006 101 118, 13007 108 116 100, 13055 20196 21644",
    "13056 12450 12497 12540 12488, 13057 12450 12523 12501 12449, 13058 12450 12531 12506 12450",
    "13059 12450 12540 12523, 13060 12452 12491 12531 12464, 13061 12452 12531 12481",
    "13062 12454 12457 12531, 13063 12456 12473 12463 12540 12489, 13064 12456 12540 12459 12540",
    "13065 12458 12531 12473, 13066 12458 12540 12512, 13067 12459 12452 12522",
    "13068 12459 12521 12483 12488, 13069 12459 12525 12522 12540, 13070 12460 12525 12531",
    "13071 12460 12531 12510, 13072 12462 12460, 13073 12462 12491 12540",
    "13074 12461 12517 12522 12540, 13075 12462 12523 12480 12540, 13076 12461 12525",
    "13077 12461 12525 12464 12521 12512, 13078 12461 12525 12513 12540 12488 12523",
    "13079 12461 12525 12527 12483 12488, 13080 12464 12521 12512",
    "13081 12464 12521 12512 12488 12531, 13082 12463 12523 12476 12452 12525",
    "13083 12463 12525 12540 12493, 13084 12465 12540 12473, 13085 12467 12523 12490",
    "13086 12467 12540 12509, 13087 12469 12452 12463 12523, 13088 12469 12531 12481 12540 12512",
    "13089 12471 12522 12531 12464, 13090 12475 12531 12481, 13091 12475 12531 12488",
    "13092 12480 12540 12473, 13093 12487 12471, 13094 12489 12523, 13095 12488 12531",
    "13096 12490 12494, 13097 12494 12483 12488, 13098 12495 12452 12484",
    "13099 12497 12540 12475 12531 12488, 13100 12497 12540 12484, 13101 12496 12540 12524 12523",
    "13102 12500 12450 12473 12488 12523, 13103 12500 12463 12523, 13104 12500 12467",
    "13105 12499 12523, 13106 12501 12449 12521 12483 12489, 13107 12501 12451 12540 12488",
    "13108 12502 12483 12471 12455 12523, 13109 12501 12521 12531",
    "13110 12504 12463 12479 12540 12523, 13111 12506 12477, 13112 12506 12491 12498",
    "13113 12504 12523 12484, 13114 12506 12531 12473, 13115 12506 12540 12472",
    "13116 12505 12540 12479, 13117 12509 12452 12531 12488, 13118 12508 12523 12488",
    "13119 12507 12531, 13120 12509 12531 12489, 13121 12507 12540 12523, 13122 12507 12540 12531",
    "13123 12510 12452 12463 12525, 13124 12510 12452 12523, 13125 12510 12483 12495",
    "13126 12510 12523 12463, 13127 12510 12531 12471 12519 12531, 13128 12511 12463 12525 12531",
    "13129 12511 12522, 13130 12511 12522 12496 12540 12523, 13131 12513 12460",
    "13132 12513 12460 12488 12531, 13133 12513 12540 12488 12523, 13134 12516 12540 12489",
    "13135 12516 12540 12523, 13136 12518 12450 12531, 13137 12522 12483 12488 12523",
    "13138 12522 12521, 13139 12523 12500 12540, 13140 12523 12540 12502 12523, 13141 12524 12512",
    "13142 12524 12531 12488 12466 12531, 13143 12527 12483 12488, 13144 48 28857, 13145 49 28857",
    "13146 50 28857, 13147 51 28857, 13148 52 28857, 13149 53 28857, 13150 54 28857",
    "13151 55 28857, 13152 56 28857, 13153 57 28857, 13154 49 48 28857, 13155 49 49 28857",
    "13156 49 50 28857, 13157 49 51 28857, 13158 49 52 28857, 13159 49 53 28857",
    "13160 49 54 28857, 13161 49 55 28857, 13162 49 56 28857, 13163 49 57 28857",
    "13164 50 48 28857, 13165 50 49 28857, 13166 50 50 28857, 13167 50 51 28857",
    "13168 50 52 28857, 13169 104 112 97, 13170 100 97, 13171 97 117, 13172 98 97 114",
    "13173 111 118, 13174 112 99, 13175 100 109, 13176 100 109 50, 13177 100 109 51",
    "13178 105 117, 13179 24179 25104, 13180 26157 21644, 13181 22823 27491, 13182 26126 27835",
    "13183 26666 24335 20250 31038, 13184 112 97, 13185 110 97, 13186 956 97, 13187 109 97",
    "13188 107 97, 13189 107 98, 13190 109 98, 13191 103 98, 13192 99 97 108, 13193 107 99 97 108",
    "13194 112 102, 13195 110 102, 13196 956 102, 13197 956 103, 13198 109 103, 13199 107 103",
    "13200 104 122, 13201 107 104 122, 13202 109 104 122, 13203 103 104 122, 13204 116 104 122",
    "13205 956 108, 13206 109 108, 13207 100 108, 13208 107 108, 13209 102 109, 13210 110 109",
    "13211 956 109, 13212 109 109, 13213 99 109, 13214 107 109, 13215 109 109 50, 13216 99 109 50",
    "13217 109 50, 13218 107 109 50, 13219 109 109 51, 13220 99 109 51, 13221 109 51",
    "13222 107 109 51, 13223 109 8725 115, 13224 109 8725 115 50, 13225 112 97, 13226 107 112 97",
    "13227 109 112 97, 13228 103 112 97, 13229 114 97 100, 13230 114 97 100 8725 115",
    "13231 114 97 100 8725 115 50, 13232 112 115, 13233 110 115, 13234 956 115, 13235 109 115",
    "13236 112 118, 13237 110 118, 13238 956 118, 13239 109 118, 13240 107 118, 13241 109 118",
    "13242 112 119, 13243 110 119, 13244 956 119, 13245 109 119, 13246 107 119, 13247 109 119",
    "13248 107 969, 13249 109 969, 13251 98 113, 13252 99 99, 13253 99 100, 13254 99 8725 107 103",
    "13256 100 98, 13257 103 121, 13258 104 97, 13259 104 112, 13260 105 110, 13261 107 107",
    "13262 107 109, 13263 107 116, 13264 108 109, 13265 108 110, 13266 108 111 103, 13267 108 120",
    "13268 109 98, 13269 109 105 108, 13270 109 111 108, 13271 112 104, 13273 112 112 109",
    "13274 112 114, 13275 115 114, 13276 115 118, 13277 119 98, 13278 118 8725 109",
    "13279 97 8725 109, 13280 49 26085, 13281 50 26085, 13282 51 26085, 13283 52 26085",
    "13284 53 26085, 13285 54 26085, 13286 55 26085, 13287 56 26085, 13288 57 26085",
    "13289 49 48 26085, 13290 49 49 26085, 13291 49 50 26085, 13292 49 51 26085",
    "13293 49 52 26085, 13294 49 53 26085, 13295 49 54 26085, 13296 49 55 26085",
    "13297 49 56 26085, 13298 49 57 26085, 13299 50 48 26085, 13300 50 49 26085",
    "13301 50 50 26085, 13302 50 51 26085, 13303 50 52 26085, 13304 50 53 26085",
    "13305 50 54 26085, 13306 50 55 26085, 13307 50 56 26085, 13308 50 57 26085",
    "13309 51 48 26085, 13310 51 49 26085, 13311 103 97 108, 64256 102 102, 64257 102 105",
    "64258 102 108, 64259 102 102 105, 64260 102 102 108, 64261 115 116, 64262 115 116",
    "64275 1396 1398, 64276 1396 1381, 64277 1396 1387, 64278 1406 1398, 64279 1396 1389",
    "64285 1497 1460, 64287 1522 1463, 64298 1513 1473, 64299 1513 1474, 64300 1513 1468 1473",
    "64301 1513 1468 1474, 64302 1488 1463, 64303 1488 1464, 64304 1488 1468, 64305 1489 1468",
    "64306 1490 1468, 64307 1491 1468, 64308 1492 1468, 64309 1493 1468, 64310 1494 1468",
    "64312 1496 1468, 64313 1497 1468, 64314 1498 1468, 64315 1499 1468, 64316 1500 1468",
    "64318 1502 1468, 64320 1504 1468, 64321 1505 1468, 64323 1507 1468, 64324 1508 1468",
    "64326 1510 1468, 64327 1511 1468, 64328 1512 1468, 64329 1513 1468, 64330 1514 1468",
    "64331 1493 1465, 64332 1489 1471, 64333 1499 1471, 64334 1508 1471, 64335 1488 1500",
    "64477 1735 1652, 64490 1574 1575, 64491 1574 1575, 64492 1574 1749, 64493 1574 1749",
    "64494 1574 1608, 64495 1574 1608, 64496 1574 1735, 64497 1574 1735, 64498 1574 1734",
    "64499 1574 1734, 64500 1574 1736, 64501 1574 1736, 64502 1574 1744, 64503 1574 1744",
    "64504 1574 1744, 64505 1574 1609, 64506 1574 1609, 64507 1574 1609, 64512 1574 1580",
    "64513 1574 1581, 64514 1574 1605, 64515 1574 1609, 64516 1574 1610, 64517 1576 1580",
    "64518 1576 1581, 64519 1576 1582, 64520 1576 1605, 64521 1576 1609, 64522 1576 1610",
    "64523 1578 1580, 64524 1578 1581, 64525 1578 1582, 64526 1578 1605, 64527 1578 1609",
    "64528 1578 1610, 64529 1579 1580, 64530 1579 1605, 64531 1579 1609, 64532 1579 1610",
    "64533 1580 1581, 64534 1580 1605, 64535 1581 1580, 64536 1581 1605, 64537 1582 1580",
    "64538 1582 1581, 64539 1582 1605, 64540 1587 1580, 64541 1587 1581, 64542 1587 1582",
    "64543 1587 1605, 64544 1589 1581, 64545 1589 1605, 64546 1590 1580, 64547 1590 1581",
    "64548 1590 1582, 64549 1590 1605, 64550 1591 1581, 64551 1591 1605, 64552 1592 1605",
    "64553 1593 1580, 64554 1593 1605, 64555 1594 1580, 64556 1594 1605, 64557 1601 1580",
    "64558 1601 1581, 64559 1601 1582, 64560 1601 1605, 64561 1601 1609, 64562 1601 1610",
    "64563 1602 1581, 64564 1602 1605, 64565 1602 1609, 64566 1602 1610, 64567 1603 1575",
    "64568 1603 1580, 64569 1603 1581, 64570 1603 1582, 64571 1603 1604, 64572 1603 1605",
    "64573 1603 1609, 64574 1603 1610, 64575 1604 1580, 64576 1604 1581, 64577 1604 1582",
    "64578 1604 1605, 64579 1604 1609, 64580 1604 1610, 64581 1605 1580, 64582 1605 1581",
    "64583 1605 1582, 64584 1605 1605, 64585 1605 1609, 64586 1605 1610, 64587 1606 1580",
    "64588 1606 1581, 64589 1606 1582, 64590 1606 1605, 64591 1606 1609, 64592 1606 1610",
    "64593 1607 1580, 64594 1607 1605, 64595 1607 1609, 64596 1607 1610, 64597 1610 1580",
    "64598 1610 1581, 64599 1610 1582, 64600 1610 1605, 64601 1610 1609, 64602 1610 1610",
    "64603 1584 1648, 64604 1585 1648, 64605 1609 1648, 64606 32 1612 1617, 64607 32 1613 1617",
    "64608 32 1614 1617, 64609 32 1615 1617, 64610 32 1616 1617, 64611 32 1617 1648",
    "64612 1574 1585, 64613 1574 1586, 64614 1574 1605, 64615 1574 1606, 64616 1574 1609",
    "64617 1574 1610, 64618 1576 1585, 64619 1576 1586, 64620 1576 1605, 64621 1576 1606",
    "64622 1576 1609, 64623 1576 1610, 64624 1578 1585, 64625 1578 1586, 64626 1578 1605",
    "64627 1578 1606, 64628 1578 1609, 64629 1578 1610, 64630 1579 1585, 64631 1579 1586",
    "64632 1579 1605, 64633 1579 1606, 64634 1579 1609, 64635 1579 1610, 64636 1601 1609",
    "64637 1601 1610, 64638 1602 1609, 64639 1602 1610, 64640 1603 1575, 64641 1603 1604",
    "64642 1603 1605, 64643 1603 1609, 64644 1603 1610, 64645 1604 1605, 64646 1604 1609",
    "64647 1604 1610, 64648 1605 1575, 64649 1605 1605, 64650 1606 1585, 64651 1606 1586",
    "64652 1606 1605, 64653 1606 1606, 64654 1606 1609, 64655 1606 1610, 64656 1609 1648",
    "64657 1610 1585, 64658 1610 1586, 64659 1610 1605, 64660 1610 1606, 64661 1610 1609",
    "64662 1610 1610, 64663 1574 1580, 64664 1574 1581, 64665 1574 1582, 64666 1574 1605",
    "64667 1574 1607, 64668 1576 1580, 64669 1576 1581, 64670 1576 1582, 64671 1576 1605",
    "64672 1576 1607, 64673 1578 1580, 64674 1578 1581, 64675 1578 1582, 64676 1578 1605",
    "64677 1578 1607, 64678 1579 1605, 64679 1580 1581, 64680 1580 1605, 64681 1581 1580",
    "64682 1581 1605, 64683 1582 1580, 64684 1582 1605, 64685 1587 1580, 64686 1587 1581",
    "64687 1587 1582, 64688 1587 1605, 64689 1589 1581, 64690 1589 1582, 64691 1589 1605",
    "64692 1590 1580, 64693 1590 1581, 64694 1590 1582, 64695 1590 1605, 64696 1591 1581",
    "64697 1592 1605, 64698 1593 1580, 64699 1593 1605, 64700 1594 1580, 64701 1594 1605",
    "64702 1601 1580, 64703 1601 1581, 64704 1601 1582, 64705 1601 1605, 64706 1602 1581",
    "64707 1602 1605, 64708 1603 1580, 64709 1603 1581, 64710 1603 1582, 64711 1603 1604",
    "64712 1603 1605, 64713 1604 1580, 64714 1604 1581, 64715 1604 1582, 64716 1604 1605",
    "64717 1604 1607, 64718 1605 1580, 64719 1605 1581, 64720 1605 1582, 64721 1605 1605",
    "64722 1606 1580, 64723 1606 1581, 64724 1606 1582, 64725 1606 1605, 64726 1606 1607",
    "64727 1607 1580, 64728 1607 1605, 64729 1607 1648, 64730 1610 1580, 64731 1610 1581",
    "64732 1610 1582, 64733 1610 1605, 64734 1610 1607, 64735 1574 1605, 64736 1574 1607",
    "64737 1576 1605, 64738 1576 1607, 64739 1578 1605, 64740 1578 1607, 64741 1579 1605",
    "64742 1579 1607, 64743 1587 1605, 64744 1587 1607, 64745 1588 1605, 64746 1588 1607",
    "64747 1603 1604, 64748 1603 1605, 64749 1604 1605, 64750 1606 1605, 64751 1606 1607",
    "64752 1610 1605, 64753 1610 1607, 64754 1600 1614 1617, 64755 1600 1615 1617",
    "64756 1600 1616 1617, 64757 1591 1609, 64758 1591 1610, 64759 1593 1609, 64760 1593 1610",
    "64761 1594 1609, 64762 1594 1610, 64763 1587 1609, 64764 1587 1610, 64765 1588 1609",
    "64766 1588 1610, 64767 1581 1609, 64768 1581 1610, 64769 1580 1609, 64770 1580 1610",
    "64771 1582 1609, 64772 1582 1610, 64773 1589 1609, 64774 1589 1610, 64775 1590 1609",
    "64776 1590 1610, 64777 1588 1580, 64778 1588 1581, 64779 1588 1582, 64780 1588 1605",
    "64781 1588 1585, 64782 1587 1585, 64783 1589 1585, 64784 1590 1585, 64785 1591 1609",
    "64786 1591 1610, 64787 1593 1609, 64788 1593 1610, 64789 1594 1609, 64790 1594 1610",
    "64791 1587 1609, 64792 1587 1610, 64793 1588 1609, 64794 1588 1610, 64795 1581 1609",
    "64796 1581 1610, 64797 1580 1609, 64798 1580 1610, 64799 1582 1609, 64800 1582 1610",
    "64801 1589 1609, 64802 1589 1610, 64803 1590 1609, 64804 1590 1610, 64805 1588 1580",
    "64806 1588 1581, 64807 1588 1582, 64808 1588 1605, 64809 1588 1585, 64810 1587 1585",
    "64811 1589 1585, 64812 1590 1585, 64813 1588 1580, 64814 1588 1581, 64815 1588 1582",
    "64816 1588 1605, 64817 1587 1607, 64818 1588 1607, 64819 1591 1605, 64820 1587 1580",
    "64821 1587 1581, 64822 1587 1582, 64823 1588 1580, 64824 1588 1581, 64825 1588 1582",
    "64826 1591 1605, 64827 1592 1605, 64828 1575 1611, 64829 1575 1611, 64848 1578 1580 1605",
    "64849 1578 1581 1580, 64850 1578 1581 1580, 64851 1578 1581 1605, 64852 1578 1582 1605",
    "64853 1578 1605 1580, 64854 1578 1605 1581, 64855 1578 1605 1582, 64856 1580 1605 1581",
    "64857 1580 1605 1581, 64858 1581 1605 1610, 64859 1581 1605 1609, 64860 1587 1581 1580",
    "64861 1587 1580 1581, 64862 1587 1580 1609, 64863 1587 1605 1581, 64864 1587 1605 1581",
    "64865 1587 1605 1580, 64866 1587 1605 1605, 64867 1587 1605 1605, 64868 1589 1581 1581",
    "64869 1589 1581 1581, 64870 1589 1605 1605, 64871 1588 1581 1605, 64872 1588 1581 1605",
    "64873 1588 1580 1610, 64874 1588 1605 1582, 64875 1588 1605 1582, 64876 1588 1605 1605",
    "64877 1588 1605 1605, 64878 1590 1581 1609, 64879 1590 1582 1605, 64880 1590 1582 1605",
    "64881 1591 1605 1581, 64882 1591 1605 1581, 64883 1591 1605 1605, 64884 1591 1605 1610",
    "64885 1593 1580 1605, 64886 1593 1605 1605, 64887 1593 1605 1605, 64888 1593 1605 1609",
    "64889 1594 1605 1605, 64890 1594 1605 1610, 64891 1594 1605 1609, 64892 1601 1582 1605",
    "64893 1601 1582 1605, 64894 1602 1605 1581, 64895 1602 1605 1605, 64896 1604 1581 1605",
    "64897 1604 1581 1610, 64898 1604 1581 1609, 64899 1604 1580 1580, 64900 1604 1580 1580",
    "64901 1604 1582 1605, 64902 1604 1582 1605, 64903 1604 1605 1581, 64904 1604 1605 1581",
    "64905 1605 1581 1580, 64906 1605 1581 1605, 64907 1605 1581 1610, 64908 1605 1580 1581",
    "64909 1605 1580 1605, 64910 1605 1582 1580, 64911 1605 1582 1605, 64914 1605 1580 1582",
    "64915 1607 1605 1580, 64916 1607 1605 1605, 64917 1606 1581 1605, 64918 1606 1581 1609",
    "64919 1606 1580 1605, 64920 1606 1580 1605, 64921 1606 1580 1609, 64922 1606 1605 1610",
    "64923 1606 1605 1609, 64924 1610 1605 1605, 64925 1610 1605 1605, 64926 1576 1582 1610",
    "64927 1578 1580 1610, 64928 1578 1580 1609, 64929 1578 1582 1610, 64930 1578 1582 1609",
    "64931 1578 1605 1610, 64932 1578 1605 1609, 64933 1580 1605 1610, 64934 1580 1581 1609",
    "64935 1580 1605 1609, 64936 1587 1582 1609, 64937 1589 1581 1610, 64938 1588 1581 1610",
    "64939 1590 1581 1610, 64940 1604 1580 1610, 64941 1604 1605 1610, 64942 1610 1581 1610",
    "64943 1610 1580 1610, 64944 1610 1605 1610, 64945 1605 1605 1610, 64946 1602 1605 1610",
    "64947 1606 1581 1610, 64948 1602 1605 1581, 64949 1604 1581 1605, 64950 1593 1605 1610",
    "64951 1603 1605 1610, 64952 1606 1580 1581, 64953 1605 1582 1610, 64954 1604 1580 1605",
    "64955 1603 1605 1605, 64956 1604 1580 1605, 64957 1606 1580 1581, 64958 1580 1581 1610",
    "64959 1581 1580 1610, 64960 1605 1580 1610, 64961 1601 1605 1610, 64962 1576 1581 1610",
    "64963 1603 1605 1605, 64964 1593 1580 1605, 64965 1589 1605 1605, 64966 1587 1582 1610",
    "64967 1606 1580 1610, 65008 1589 1604 1746, 65009 1602 1604 1746, 65010 1575 1604 1604 1607",
    "65011 1575 1603 1576 1585, 65012 1605 1581 1605 1583, 65013 1589 1604 1593 1605",
    "65014 1585 1587 1608 1604, 65015 1593 1604 1610 1607, 65016 1608 1587 1604 1605",
    "65017 1589 1604 1609",
    "65018 1589 1604 1609 32 1575 1604 1604 1607 32 1593 1604 1610 1607 32 1608 1587 1604 1605",
    "65019 1580 1604 32 1580 1604 1575 1604 1607, 65020 1585 1740 1575 1604, 65097 32 773",
    "65098 32 773, 65099 32 773, 65100 32 773, 65136 32 1611, 65137 1600 1611, 65138 32 1612",
    "65140 32 1613, 65142 32 1614, 65143 1600 1614, 65144 32 1615, 65145 1600 1615, 65146 32 1616",
    "65147 1600 1616, 65148 32 1617, 65149 1600 1617, 65150 32 1618, 65151 1600 1618",
    "65269 1604 1570, 65270 1604 1570, 65271 1604 1571, 65272 1604 1571, 65273 1604 1573",
    "65274 1604 1573, 65275 1604 1575, 65276 1604 1575, 65507 32 772, 119134 119127 119141",
    "119135 119128 119141, 119136 119128 119141 119150, 119137 119128 119141 119151",
    "119138 119128 119141 119152, 119139 119128 119141 119153, 119140 119128 119141 119154",
    "119227 119225 119141, 119228 119226 119141, 119229 119225 119141 119150",
    "119230 119226 119141 119150, 119231 119225 119141 119151, 119232 119226 119141 119151",
    "127233 48 44, 127234 49 44, 127235 50 44, 127236 51 44, 127237 52 44, 127238 53 44",
    "127239 54 44, 127240 55 44, 127241 56 44, 127242 57 44, 127248 40 97 41, 127249 40 98 41",
    "127250 40 99 41, 127251 40 100 41, 127252 40 101 41, 127253 40 102 41, 127254 40 103 41",
    "127255 40 104 41, 127256 40 105 41, 127257 40 106 41, 127258 40 107 41, 127259 40 108 41",
    "127260 40 109 41, 127261 40 110 41, 127262 40 111 41, 127263 40 112 41, 127264 40 113 41",
    "127265 40 114 41, 127266 40 115 41, 127267 40 116 41, 127268 40 117 41, 127269 40 118 41",
    "127270 40 119 41, 127271 40 120 41, 127272 40 121 41, 127273 40 122 41",
    "127274 12308 115 12309, 127277 99 100, 127278 119 122, 127306 104 118, 127307 109 118",
    "127308 115 100, 127309 115 115, 127310 112 112 118, 127311 119 99, 127338 109 99",
    "127339 109 100, 127340 109 114, 127376 100 106, 127488 12411 12363, 127489 12467 12467",
    "127552 12308 26412 12309, 127553 12308 19977 12309, 127554 12308 20108 12309",
    "127555 12308 23433 12309, 127556 12308 28857 12309, 127557 12308 25171 12309",
    "127558 12308 30423 12309, 127559 12308 21213 12309, 127560 12308 25943 12309"]

def firstMapped : Nat := 0x41

def domainStatus (n : Nat) : DomainStatus :=
  if n < firstMapped then .kept
  -- Of ASCII only the capital letters are mapped.
  else if n < 0x80 then if n ≤ 'Z'.toNat then .replaced [n + 0x20] else .kept
  else match domainRuns.findSome? (·.get? n) with
  | some target => .replaced [target]
  | none => match domainLong.lookup n with
    | some target => .replaced target
    | none =>
      if domainDropped.contains n then .dropped
      else if domainRefused.contains n then .refused
      else .kept

end ChatRelay.Unicode
