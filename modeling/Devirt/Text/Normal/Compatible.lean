/-
  The characters that are written for sequences of others.

  They differ from these in their looks only, such as in their width.

  Key definitions include:
    * `Text.Normal.likeNumbers`, characters written for single others
    * `Text.Normal.longLikeNumbers`
-/

namespace Devirt

namespace Text

namespace Normal

/-
  Runs of characters that are written for runs of others: the first, their number, and
  the first of the others.
-/
def likeNumbers : List String :=
  [ "160 1 32 170 1 97 178 2 50 181 1 956 185 1 49 186 1 111 383 1 115 688 1 104 689 1 614"
  , "690 1 106 691 1 114 692 1 633 693 1 635 694 1 641 695 1 119 696 1 121 736 1 611 737 1"
  , "108 738 1 115 739 1 120 740 1 661 976 1 946 977 1 952 978 1 933 981 1 966 982 1 960 1008"
  , "1 954 1009 2 961 1012 1 920 1013 1 949 1017 1 931 3852 1 3851 4348 1 4316 7468 1 65 7469"
  , "1 198 7470 1 66 7472 2 68 7474 1 398 7475 8 71 7484 1 79 7485 1 546 7486 1 80 7487 1 82"
  , "7488 2 84 7490 1 87 7491 1 97 7492 2 592 7494 1 7426 7495 1 98 7496 2 100 7498 1 601"
  , "7499 2 603 7501 1 103 7503 1 107 7504 1 109 7505 1 331 7506 1 111 7507 1 596 7508 2 7446"
  , "7510 1 112 7511 2 116 7513 1 7453 7514 1 623 7515 1 118 7516 1 7461 7517 3 946 7520 2"
  , "966 7522 1 105 7523 1 114 7524 2 117 7526 2 946 7528 1 961 7529 2 966 7544 1 1085 7579 1"
  , "594 7580 1 99 7581 1 597 7582 1 240 7583 1 604 7584 1 102 7585 1 607 7586 1 609 7587 1"
  , "613 7588 3 616 7591 1 7547 7592 1 669 7593 1 621 7594 1 7557 7595 1 671 7596 1 625 7597"
  , "1 624 7598 4 626 7602 1 632 7603 2 642 7605 1 427 7606 2 649 7608 1 7452 7609 2 651 7611"
  , "1 122 7612 3 656 7615 1 952 8192 1 32 8193 1 32 8194 1 32 8195 1 32 8196 1 32 8197 1 32"
  , "8198 1 32 8199 1 32 8200 1 32 8201 1 32 8202 1 32 8209 1 8208 8228 1 46 8239 1 32 8287 1"
  , "32 8304 1 48 8305 1 105 8308 6 52 8314 1 43 8315 1 8722 8316 1 61 8317 2 40 8319 1 110"
  , "8320 10 48 8330 1 43 8331 1 8722 8332 1 61 8333 2 40 8336 1 97 8337 1 101 8338 1 111"
  , "8339 1 120 8340 1 601 8341 1 104 8342 4 107 8346 1 112 8347 2 115 8450 1 67 8455 1 400"
  , "8458 1 103 8459 1 72 8460 1 72 8461 1 72 8462 1 104 8463 1 295 8464 1 73 8465 1 73 8466"
  , "1 76 8467 1 108 8469 1 78 8473 3 80 8476 1 82 8477 1 82 8484 1 90 8488 1 90 8492 2 66"
  , "8495 1 101 8496 2 69 8499 1 77 8500 1 111 8501 4 1488 8505 1 105 8508 1 960 8509 1 947"
  , "8510 1 915 8511 1 928 8512 1 8721 8517 1 68 8518 2 100 8520 2 105 8544 1 73 8548 1 86"
  , "8553 1 88 8556 1 76 8557 2 67 8559 1 77 8560 1 105 8564 1 118 8569 1 120 8572 1 108 8573"
  , "2 99 8575 1 109 9312 9 49 9398 26 65 9424 26 97 9450 1 48 11388 1 106 11389 1 86 11631 1"
  , "11617 11935 1 27597 12019 1 40863 12032 1 19968 12033 1 20008 12034 1 20022 12035 1"
  , "20031 12036 1 20057 12037 1 20101 12038 1 20108 12039 1 20128 12040 1 20154 12041 1"
  , "20799 12042 1 20837 12043 1 20843 12044 1 20866 12045 1 20886 12046 1 20907 12047 1"
  , "20960 12048 1 20981 12049 1 20992 12050 1 21147 12051 1 21241 12052 1 21269 12053 1"
  , "21274 12054 1 21304 12055 1 21313 12056 1 21340 12057 1 21353 12058 1 21378 12059 1"
  , "21430 12060 1 21448 12061 1 21475 12062 1 22231 12063 1 22303 12064 1 22763 12065 1"
  , "22786 12066 1 22794 12067 1 22805 12068 1 22823 12069 1 22899 12070 1 23376 12071 1"
  , "23424 12072 1 23544 12073 1 23567 12074 1 23586 12075 1 23608 12076 1 23662 12077 1"
  , "23665 12078 1 24027 12079 1 24037 12080 1 24049 12081 1 24062 12082 1 24178 12083 1"
  , "24186 12084 1 24191 12085 1 24308 12086 1 24318 12087 1 24331 12088 1 24339 12089 1"
  , "24400 12090 1 24417 12091 1 24435 12092 1 24515 12093 1 25096 12094 1 25142 12095 1"
  , "25163 12096 1 25903 12097 1 25908 12098 1 25991 12099 1 26007 12100 1 26020 12101 1"
  , "26041 12102 1 26080 12103 1 26085 12104 1 26352 12105 1 26376 12106 1 26408 12107 1"
  , "27424 12108 1 27490 12109 1 27513 12110 1 27571 12111 1 27595 12112 1 27604 12113 1"
  , "27611 12114 1 27663 12115 1 27668 12116 1 27700 12117 1 28779 12118 1 29226 12119 1"
  , "29238 12120 1 29243 12121 1 29247 12122 1 29255 12123 1 29273 12124 1 29275 12125 1"
  , "29356 12126 1 29572 12127 1 29577 12128 1 29916 12129 1 29926 12130 1 29976 12131 1"
  , "29983 12132 1 29992 12133 1 30000 12134 1 30091 12135 1 30098 12136 1 30326 12137 1"
  , "30333 12138 1 30382 12139 1 30399 12140 1 30446 12141 1 30683 12142 1 30690 12143 1"
  , "30707 12144 1 31034 12145 1 31160 12146 1 31166 12147 1 31348 12148 1 31435 12149 1"
  , "31481 12150 1 31859 12151 1 31992 12152 1 32566 12153 1 32593 12154 1 32650 12155 1"
  , "32701 12156 1 32769 12157 1 32780 12158 1 32786 12159 1 32819 12160 1 32895 12161 1"
  , "32905 12162 1 33251 12163 1 33258 12164 1 33267 12165 1 33276 12166 1 33292 12167 1"
  , "33307 12168 1 33311 12169 1 33390 12170 1 33394 12171 1 33400 12172 1 34381 12173 1"
  , "34411 12174 1 34880 12175 1 34892 12176 1 34915 12177 1 35198 12178 1 35211 12179 1"
  , "35282 12180 1 35328 12181 1 35895 12182 1 35910 12183 1 35925 12184 1 35960 12185 1"
  , "35997 12186 1 36196 12187 1 36208 12188 1 36275 12189 1 36523 12190 1 36554 12191 1"
  , "36763 12192 1 36784 12193 1 36789 12194 1 37009 12195 1 37193 12196 1 37318 12197 1"
  , "37324 12198 1 37329 12199 1 38263 12200 1 38272 12201 1 38428 12202 1 38582 12203 1"
  , "38585 12204 1 38632 12205 1 38737 12206 1 38750 12207 1 38754 12208 1 38761 12209 1"
  , "38859 12210 1 38893 12211 1 38899 12212 1 38913 12213 1 39080 12214 1 39131 12215 1"
  , "39135 12216 1 39318 12217 1 39321 12218 1 39340 12219 1 39592 12220 1 39640 12221 1"
  , "39647 12222 1 39717 12223 1 39727 12224 1 39730 12225 1 39740 12226 1 39770 12227 1"
  , "40165 12228 1 40565 12229 1 40575 12230 1 40613 12231 1 40635 12232 1 40643 12233 1"
  , "40653 12234 1 40657 12235 1 40697 12236 1 40701 12237 1 40718 12238 1 40723 12239 1"
  , "40736 12240 1 40763 12241 1 40778 12242 1 40786 12243 1 40845 12244 1 40860 12245 1"
  , "40864 12288 1 32 12342 1 12306 12344 1 21313 12345 2 21316 12593 2 4352 12595 1 4522"
  , "12596 1 4354 12597 2 4524 12599 3 4355 12602 6 4528 12608 1 4378 12609 3 4358 12612 1"
  , "4385 12613 10 4361 12623 21 4449 12644 1 4448 12645 2 4372 12647 2 4551 12649 1 4556"
  , "12650 1 4558 12651 1 4563 12652 1 4567 12653 1 4569 12654 1 4380 12655 1 4573 12656 1"
  , "4575 12657 2 4381 12659 1 4384 12660 2 4386 12662 1 4391 12663 1 4393 12664 5 4395 12669"
  , "1 4402 12670 1 4406 12671 1 4416 12672 1 4423 12673 1 4428 12674 2 4593 12676 3 4439"
  , "12679 2 4484 12681 1 4488 12682 2 4497 12684 1 4500 12685 1 4510 12686 1 4513 12690 1"
  , "19968 12691 1 20108 12692 1 19977 12693 1 22235 12694 1 19978 12695 1 20013 12696 1"
  , "19979 12697 1 30002 12698 1 20057 12699 1 19993 12700 1 19969 12701 1 22825 12702 1"
  , "22320 12703 1 20154 12868 1 21839 12869 1 24188 12870 1 25991 12871 1 31631 12896 1 4352"
  , "12897 2 4354 12899 3 4357 12902 1 4361 12903 2 4363 12905 5 4366 12928 1 19968 12929 1"
  , "20108 12930 1 19977 12931 1 22235 12932 1 20116 12933 1 20845 12934 1 19971 12935 1"
  , "20843 12936 1 20061 12937 1 21313 12938 1 26376 12939 1 28779 12940 1 27700 12941 1"
  , "26408 12942 1 37329 12943 1 22303 12944 1 26085 12945 1 26666 12946 1 26377 12947 1"
  , "31038 12948 1 21517 12949 1 29305 12950 1 36001 12951 1 31069 12952 1 21172 12953 1"
  , "31192 12954 1 30007 12955 1 22899 12956 1 36969 12957 1 20778 12958 1 21360 12959 1"
  , "27880 12960 1 38917 12961 1 20241 12962 1 20889 12963 1 27491 12964 1 19978 12965 1"
  , "20013 12966 1 19979 12967 1 24038 12968 1 21491 12969 1 21307 12970 1 23447 12971 1"
  , "23398 12972 1 30435 12973 1 20225 12974 1 36039 12975 1 21332 12976 1 22812 13008 1"
  , "12450 13009 1 12452 13010 1 12454 13011 1 12456 13012 2 12458 13014 1 12461 13015 1"
  , "12463 13016 1 12465 13017 1 12467 13018 1 12469 13019 1 12471 13020 1 12473 13021 1"
  , "12475 13022 1 12477 13023 1 12479 13024 1 12481 13025 1 12484 13026 1 12486 13027 1"
  , "12488 13028 6 12490 13034 1 12498 13035 1 12501 13036 1 12504 13037 1 12507 13038 5"
  , "12510 13043 1 12516 13044 1 12518 13045 6 12520 13051 4 12527 42652 1 1098 42653 1 1100"
  , "42864 1 42863 42993 1 83 42994 1 67 42995 1 70 42996 1 81 43000 1 294 43001 1 339 43868"
  , "1 42791 43869 1 43831 43870 1 619 43871 1 43858 43881 1 653 64288 1 1506 64289 1 1488"
  , "64290 2 1491 64292 3 1499 64295 1 1512 64296 1 1514 64297 1 43 64336 1 1649 64337 1 1649"
  , "64338 1 1659 64339 1 1659 64340 1 1659 64341 1 1659 64342 1 1662 64343 1 1662 64344 1"
  , "1662 64345 1 1662 64346 1 1664 64347 1 1664 64348 1 1664 64349 1 1664 64350 1 1658 64351"
  , "1 1658 64352 1 1658 64353 1 1658 64354 1 1663 64355 1 1663 64356 1 1663 64357 1 1663"
  , "64358 1 1657 64359 1 1657 64360 1 1657 64361 1 1657 64362 1 1700 64363 1 1700 64364 1"
  , "1700 64365 1 1700 64366 1 1702 64367 1 1702 64368 1 1702 64369 1 1702 64370 1 1668 64371"
  , "1 1668 64372 1 1668 64373 1 1668 64374 1 1667 64375 1 1667 64376 1 1667 64377 1 1667"
  , "64378 1 1670 64379 1 1670 64380 1 1670 64381 2 1670 64383 1 1671 64384 1 1671 64385 1"
  , "1671 64386 1 1677 64387 1 1677 64388 1 1676 64389 1 1676 64390 1 1678 64391 1 1678 64392"
  , "1 1672 64393 1 1672 64394 1 1688 64395 1 1688 64396 1 1681 64397 1 1681 64398 1 1705"
  , "64399 1 1705 64400 1 1705 64401 1 1705 64402 1 1711 64403 1 1711 64404 1 1711 64405 1"
  , "1711 64406 1 1715 64407 1 1715 64408 1 1715 64409 1 1715 64410 1 1713 64411 1 1713 64412"
  , "1 1713 64413 1 1713 64414 1 1722 64415 2 1722 64417 1 1723 64418 1 1723 64419 1 1723"
  , "64422 1 1729 64423 1 1729 64424 1 1729 64425 1 1729 64426 1 1726 64427 1 1726 64428 1"
  , "1726 64429 1 1726 64430 1 1746 64431 1 1746 64467 1 1709 64468 1 1709 64469 1 1709 64470"
  , "1 1709 64471 1 1735 64472 1 1735 64473 1 1734 64474 1 1734 64475 1 1736 64476 1 1736"
  , "64478 1 1739 64479 1 1739 64480 1 1733 64481 1 1733 64482 1 1737 64483 1 1737 64484 1"
  , "1744 64485 1 1744 64486 1 1744 64487 1 1744 64488 1 1609 64489 1 1609 64508 1 1740 64509"
  , "1 1740 64510 1 1740 64511 1 1740 65040 1 44 65041 2 12289 65043 2 58 65045 1 33 65046 1"
  , "63 65047 2 12310 65073 1 8212 65074 1 8211 65075 1 95 65076 1 95 65077 2 40 65079 1 123"
  , "65080 1 125 65081 2 12308 65083 2 12304 65085 2 12298 65087 2 12296 65089 4 12300 65095"
  , "1 91 65096 1 93 65101 1 95 65102 1 95 65103 1 95 65104 1 44 65105 1 12289 65106 1 46"
  , "65108 1 59 65109 1 58 65110 1 63 65111 1 33 65112 1 8212 65113 2 40 65115 1 123 65116 1"
  , "125 65117 2 12308 65119 1 35 65120 1 38 65121 2 42 65123 1 45 65124 1 60 65125 1 62"
  , "65126 1 61 65128 1 92 65129 2 36 65131 1 64 65152 1 1569 65165 1 1575 65166 2 1575 65168"
  , "1 1576 65169 1 1576 65170 2 1576 65172 2 1577 65174 1 1578 65175 1 1578 65176 2 1578"
  , "65178 1 1579 65179 1 1579 65180 2 1579 65182 1 1580 65183 1 1580 65184 2 1580 65186 1"
  , "1581 65187 1 1581 65188 2 1581 65190 1 1582 65191 1 1582 65192 2 1582 65194 2 1583 65196"
  , "2 1584 65198 2 1585 65200 2 1586 65202 1 1587 65203 1 1587 65204 2 1587 65206 1 1588"
  , "65207 1 1588 65208 2 1588 65210 1 1589 65211 1 1589 65212 2 1589 65214 1 1590 65215 1"
  , "1590 65216 2 1590 65218 1 1591 65219 1 1591 65220 2 1591 65222 1 1592 65223 1 1592 65224"
  , "2 1592 65226 1 1593 65227 1 1593 65228 2 1593 65230 1 1594 65231 1 1594 65232 1 1594"
  , "65233 1 1601 65234 1 1601 65235 1 1601 65236 2 1601 65238 1 1602 65239 1 1602 65240 2"
  , "1602 65242 1 1603 65243 1 1603 65244 2 1603 65246 1 1604 65247 1 1604 65248 2 1604 65250"
  , "1 1605 65251 1 1605 65252 2 1605 65254 1 1606 65255 1 1606 65256 2 1606 65258 1 1607"
  , "65259 1 1607 65260 2 1607 65262 2 1608 65264 2 1609 65266 1 1610 65267 1 1610 65268 1"
  , "1610 65281 94 33 65375 2 10629 65377 1 12290 65378 2 12300 65380 1 12289 65381 1 12539"
  , "65382 1 12530 65383 1 12449 65384 1 12451 65385 1 12453 65386 1 12455 65387 1 12457"
  , "65388 1 12515 65389 1 12517 65390 1 12519 65391 1 12483 65392 1 12540 65393 1 12450"
  , "65394 1 12452 65395 1 12454 65396 1 12456 65397 2 12458 65399 1 12461 65400 1 12463"
  , "65401 1 12465 65402 1 12467 65403 1 12469 65404 1 12471 65405 1 12473 65406 1 12475"
  , "65407 1 12477 65408 1 12479 65409 1 12481 65410 1 12484 65411 1 12486 65412 1 12488"
  , "65413 6 12490 65419 1 12498 65420 1 12501 65421 1 12504 65422 1 12507 65423 5 12510"
  , "65428 1 12516 65429 1 12518 65430 6 12520 65436 1 12527 65437 1 12531 65438 2 12441"
  , "65440 1 4448 65441 2 4352 65443 1 4522 65444 1 4354 65445 2 4524 65447 3 4355 65450 6"
  , "4528 65456 1 4378 65457 3 4358 65460 1 4385 65461 10 4361 65474 6 4449 65482 6 4455"
  , "65490 6 4461 65498 3 4467 65504 2 162 65506 1 172 65508 1 166 65509 1 165 65510 1 8361"
  , "65512 1 9474 65513 4 8592 65517 1 9632 65518 1 9675 67457 2 720 67459 1 230 67460 1 665"
  , "67461 1 595 67463 1 675 67464 1 43878 67465 1 677 67466 1 676 67467 2 598 67469 1 7569"
  , "67470 1 600 67471 1 606 67472 1 681 67473 1 612 67474 1 610 67475 1 608 67476 1 667"
  , "67477 1 295 67478 1 668 67479 1 615 67480 1 644 67481 2 682 67483 1 620 67484 1 122628"
  , "67485 1 42894 67486 1 622 67487 1 122629 67488 1 654 67489 1 122630 67490 1 248 67491 2"
  , "630 67493 1 113 67494 1 634 67495 1 122632 67496 2 637 67498 1 640 67499 1 680 67500 1"
  , "678 67501 1 43879 67502 1 679 67503 1 648 67504 1 11377 67506 1 655 67507 2 673 67509 1"
  , "664 67510 3 448 67513 1 122634 67514 1 122654 117974 26 65 118000 10 48 119808 26 65"
  , "119834 26 97 119860 26 65 119886 7 97 119894 18 105 119912 26 65 119938 26 97 119964 1"
  , "65 119966 2 67 119970 1 71 119973 2 74 119977 4 78 119982 8 83 119990 4 97 119995 1 102"
  , "119997 7 104 120005 11 112 120016 26 65 120042 26 97 120068 2 65 120071 4 68 120077 8 74"
  , "120086 7 83 120094 26 97 120120 2 65 120123 4 68 120128 5 73 120134 1 79 120138 7 83"
  , "120146 26 97 120172 26 65 120198 26 97 120224 26 65 120250 26 97 120276 26 65 120302 26"
  , "97 120328 26 65 120354 26 97 120380 26 65 120406 26 97 120432 26 65 120458 26 97 120484"
  , "1 305 120485 1 567 120488 17 913 120505 1 920 120506 7 931 120513 1 8711 120514 25 945"
  , "120539 1 8706 120540 1 949 120541 1 952 120542 1 954 120543 1 966 120544 1 961 120545 1"
  , "960 120546 17 913 120563 1 920 120564 7 931 120571 1 8711 120572 25 945 120597 1 8706"
  , "120598 1 949 120599 1 952 120600 1 954 120601 1 966 120602 1 961 120603 1 960 120604 17"
  , "913 120621 1 920 120622 7 931 120629 1 8711 120630 25 945 120655 1 8706 120656 1 949"
  , "120657 1 952 120658 1 954 120659 1 966 120660 1 961 120661 1 960 120662 17 913 120679 1"
  , "920 120680 7 931 120687 1 8711 120688 25 945 120713 1 8706 120714 1 949 120715 1 952"
  , "120716 1 954 120717 1 966 120718 1 961 120719 1 960 120720 17 913 120737 1 920 120738 7"
  , "931 120745 1 8711 120746 25 945 120771 1 8706 120772 1 949 120773 1 952 120774 1 954"
  , "120775 1 966 120776 1 961 120777 1 960 120778 2 988 120782 10 48 120792 10 48 120802 10"
  , "48 120812 10 48 120822 10 48 122928 9 1072 122937 3 1082 122940 11 1086 122951 1 1099"
  , "122952 2 1101 122954 1 42633 122955 1 1241 122956 1 1110 122957 1 1112 122958 1 1257"
  , "122959 1 1199 122960 1 1231 122961 9 1072 122970 2 1082 122972 2 1086 122974 1 1089"
  , "122975 6 1091 122981 2 1098 122983 1 1169 122984 1 1110 122985 1 1109 122986 1 1119"
  , "122987 1 1195 122988 1 42577 122989 1 1201 126464 2 1575 126466 1 1580 126467 1 1583"
  , "126469 1 1608 126470 1 1586 126471 1 1581 126472 1 1591 126473 1 1610 126474 4 1603"
  , "126478 1 1587 126479 1 1593 126480 1 1601 126481 1 1589 126482 1 1602 126483 1 1585"
  , "126484 1 1588 126485 2 1578 126487 1 1582 126488 1 1584 126489 1 1590 126490 1 1592"
  , "126491 1 1594 126492 1 1646 126493 1 1722 126494 1 1697 126495 1 1647 126497 1 1576"
  , "126498 1 1580 126500 1 1607 126503 1 1581 126505 1 1610 126506 4 1603 126510 1 1587"
  , "126511 1 1593 126512 1 1601 126513 1 1589 126514 1 1602 126516 1 1588 126517 2 1578"
  , "126519 1 1582 126521 1 1590 126523 1 1594 126530 1 1580 126535 1 1581 126537 1 1610"
  , "126539 1 1604 126541 1 1606 126542 1 1587 126543 1 1593 126545 1 1589 126546 1 1602"
  , "126548 1 1588 126551 1 1582 126553 1 1590 126555 1 1594 126557 1 1722 126559 1 1647"
  , "126561 1 1576 126562 1 1580 126564 1 1607 126567 1 1581 126568 1 1591 126569 1 1610"
  , "126570 1 1603 126572 2 1605 126574 1 1587 126575 1 1593 126576 1 1601 126577 1 1589"
  , "126578 1 1602 126580 1 1588 126581 2 1578 126583 1 1582 126585 1 1590 126586 1 1592"
  , "126587 1 1594 126588 1 1646 126590 1 1697 126592 2 1575 126594 1 1580 126595 1 1583"
  , "126596 2 1607 126598 1 1586 126599 1 1581 126600 1 1591 126601 1 1610 126603 3 1604"
  , "126606 1 1587 126607 1 1593 126608 1 1601 126609 1 1589 126610 1 1602 126611 1 1585"
  , "126612 1 1588 126613 2 1578 126615 1 1582 126616 1 1584 126617 1 1590 126618 1 1592"
  , "126619 1 1594 126625 1 1576 126626 1 1580 126627 1 1583 126629 1 1608 126630 1 1586"
  , "126631 1 1581 126632 1 1591 126633 1 1610 126635 3 1604 126638 1 1587 126639 1 1593"
  , "126640 1 1601 126641 1 1589 126642 1 1602 126643 1 1585 126644 1 1588 126645 2 1578"
  , "126647 1 1582 126648 1 1584 126649 1 1590 126650 1 1592 126651 1 1594 127275 1 67 127276"
  , "1 82 127280 26 65 127490 1 12469 127504 1 25163 127505 1 23383 127506 1 21452 127508 1"
  , "20108 127509 1 22810 127510 1 35299 127511 1 22825 127512 1 20132 127513 1 26144 127514"
  , "1 28961 127515 1 26009 127516 1 21069 127517 1 24460 127518 1 20877 127519 1 26032"
  , "127520 1 21021 127521 1 32066 127522 1 29983 127523 1 36009 127524 1 22768 127525 1"
  , "21561 127526 1 28436 127527 1 25237 127528 1 25429 127529 1 19968 127530 1 19977 127531"
  , "1 36938 127532 1 24038 127533 1 20013 127534 1 21491 127535 1 25351 127536 1 36208"
  , "127537 1 25171 127538 1 31105 127539 1 31354 127540 1 21512 127541 1 28288 127542 1"
  , "26377 127543 1 26376 127544 1 30003 127545 1 21106 127546 1 21942 127547 1 37197 127568"
  , "1 24471 127569 1 21487 130032 10 48" ]

/-
  Characters, each with the length of the sequence that it is written for, and that.
-/
def longLikeNumbers : List String :=
  [ "168 2 32 776 175 2 32 772 180 2 32 769 184 2 32 807 188 3 49 8260 52 189 3 49 8260 50"
  , "190 3 51 8260 52 306 2 73 74 307 2 105 106 319 2 76 183 320 2 108 183 329 2 700 110 452"
  , "3 68 90 780 453 3 68 122 780 454 3 100 122 780 455 2 76 74 456 2 76 106 457 2 108 106"
  , "458 2 78 74 459 2 78 106 460 2 110 106 497 2 68 90 498 2 68 122 499 2 100 122 728 2 32"
  , "774 729 2 32 775 730 2 32 778 731 2 32 808 732 2 32 771 733 2 32 779 890 2 32 837 900 2"
  , "32 769 901 3 32 776 769 979 2 933 769 980 2 933 776 1415 2 1381 1410 1653 2 1575 1652"
  , "1654 2 1608 1652 1655 2 1735 1652 1656 2 1610 1652 3635 2 3661 3634 3763 2 3789 3762"
  , "3804 2 3755 3737 3805 2 3755 3745 3959 3 4018 3953 3968 3961 3 4019 3953 3968 7834 2 97"
  , "702 7835 2 115 775 8125 2 32 787 8127 2 32 787 8128 2 32 834 8129 3 32 776 834 8141 3 32"
  , "787 768 8142 3 32 787 769 8143 3 32 787 834 8157 3 32 788 768 8158 3 32 788 769 8159 3"
  , "32 788 834 8173 3 32 776 768 8174 3 32 776 769 8189 2 32 769 8190 2 32 788 8215 2 32 819"
  , "8229 2 46 46 8230 3 46 46 46 8243 2 8242 8242 8244 3 8242 8242 8242 8246 2 8245 8245"
  , "8247 3 8245 8245 8245 8252 2 33 33 8254 2 32 773 8263 2 63 63 8264 2 63 33 8265 2 33 63"
  , "8279 4 8242 8242 8242 8242 8360 2 82 115 8448 3 97 47 99 8449 3 97 47 115 8451 2 176 67"
  , "8453 3 99 47 111 8454 3 99 47 117 8457 2 176 70 8470 2 78 111 8480 2 83 77 8481 3 84 69"
  , "76 8482 2 84 77 8507 3 70 65 88 8528 3 49 8260 55 8529 3 49 8260 57 8530 4 49 8260 49 48"
  , "8531 3 49 8260 51 8532 3 50 8260 51 8533 3 49 8260 53 8534 3 50 8260 53 8535 3 51 8260"
  , "53 8536 3 52 8260 53 8537 3 49 8260 54 8538 3 53 8260 54 8539 3 49 8260 56 8540 3 51"
  , "8260 56 8541 3 53 8260 56 8542 3 55 8260 56 8543 2 49 8260 8545 2 73 73 8546 3 73 73 73"
  , "8547 2 73 86 8549 2 86 73 8550 3 86 73 73 8551 4 86 73 73 73 8552 2 73 88 8554 2 88 73"
  , "8555 3 88 73 73 8561 2 105 105 8562 3 105 105 105 8563 2 105 118 8565 2 118 105 8566 3"
  , "118 105 105 8567 4 118 105 105 105 8568 2 105 120 8570 2 120 105 8571 3 120 105 105 8585"
  , "3 48 8260 51 8748 2 8747 8747 8749 3 8747 8747 8747 8751 2 8750 8750 8752 3 8750 8750"
  , "8750 9321 2 49 48 9322 2 49 49 9323 2 49 50 9324 2 49 51 9325 2 49 52 9326 2 49 53 9327"
  , "2 49 54 9328 2 49 55 9329 2 49 56 9330 2 49 57 9331 2 50 48 9332 3 40 49 41 9333 3 40 50"
  , "41 9334 3 40 51 41 9335 3 40 52 41 9336 3 40 53 41 9337 3 40 54 41 9338 3 40 55 41 9339"
  , "3 40 56 41 9340 3 40 57 41 9341 4 40 49 48 41 9342 4 40 49 49 41 9343 4 40 49 50 41 9344"
  , "4 40 49 51 41 9345 4 40 49 52 41 9346 4 40 49 53 41 9347 4 40 49 54 41 9348 4 40 49 55"
  , "41 9349 4 40 49 56 41 9350 4 40 49 57 41 9351 4 40 50 48 41 9352 2 49 46 9353 2 50 46"
  , "9354 2 51 46 9355 2 52 46 9356 2 53 46 9357 2 54 46 9358 2 55 46 9359 2 56 46 9360 2 57"
  , "46 9361 3 49 48 46 9362 3 49 49 46 9363 3 49 50 46 9364 3 49 51 46 9365 3 49 52 46 9366"
  , "3 49 53 46 9367 3 49 54 46 9368 3 49 55 46 9369 3 49 56 46 9370 3 49 57 46 9371 3 50 48"
  , "46 9372 3 40 97 41 9373 3 40 98 41 9374 3 40 99 41 9375 3 40 100 41 9376 3 40 101 41"
  , "9377 3 40 102 41 9378 3 40 103 41 9379 3 40 104 41 9380 3 40 105 41 9381 3 40 106 41"
  , "9382 3 40 107 41 9383 3 40 108 41 9384 3 40 109 41 9385 3 40 110 41 9386 3 40 111 41"
  , "9387 3 40 112 41 9388 3 40 113 41 9389 3 40 114 41 9390 3 40 115 41 9391 3 40 116 41"
  , "9392 3 40 117 41 9393 3 40 118 41 9394 3 40 119 41 9395 3 40 120 41 9396 3 40 121 41"
  , "9397 3 40 122 41 10764 4 8747 8747 8747 8747 10868 3 58 58 61 10869 2 61 61 10870 3 61"
  , "61 61 12443 2 32 12441 12444 2 32 12442 12447 2 12424 12426 12543 2 12467 12488 12800 3"
  , "40 4352 41 12801 3 40 4354 41 12802 3 40 4355 41 12803 3 40 4357 41 12804 3 40 4358 41"
  , "12805 3 40 4359 41 12806 3 40 4361 41 12807 3 40 4363 41 12808 3 40 4364 41 12809 3 40"
  , "4366 41 12810 3 40 4367 41 12811 3 40 4368 41 12812 3 40 4369 41 12813 3 40 4370 41"
  , "12814 4 40 4352 4449 41 12815 4 40 4354 4449 41 12816 4 40 4355 4449 41 12817 4 40 4357"
  , "4449 41 12818 4 40 4358 4449 41 12819 4 40 4359 4449 41 12820 4 40 4361 4449 41 12821 4"
  , "40 4363 4449 41 12822 4 40 4364 4449 41 12823 4 40 4366 4449 41 12824 4 40 4367 4449 41"
  , "12825 4 40 4368 4449 41 12826 4 40 4369 4449 41 12827 4 40 4370 4449 41 12828 4 40 4364"
  , "4462 41 12829 7 40 4363 4457 4364 4453 4523 41 12830 6 40 4363 4457 4370 4462 41 12832 3"
  , "40 19968 41 12833 3 40 20108 41 12834 3 40 19977 41 12835 3 40 22235 41 12836 3 40 20116"
  , "41 12837 3 40 20845 41 12838 3 40 19971 41 12839 3 40 20843 41 12840 3 40 20061 41 12841"
  , "3 40 21313 41 12842 3 40 26376 41 12843 3 40 28779 41 12844 3 40 27700 41 12845 3 40"
  , "26408 41 12846 3 40 37329 41 12847 3 40 22303 41 12848 3 40 26085 41 12849 3 40 26666 41"
  , "12850 3 40 26377 41 12851 3 40 31038 41 12852 3 40 21517 41 12853 3 40 29305 41 12854 3"
  , "40 36001 41 12855 3 40 31069 41 12856 3 40 21172 41 12857 3 40 20195 41 12858 3 40 21628"
  , "41 12859 3 40 23398 41 12860 3 40 30435 41 12861 3 40 20225 41 12862 3 40 36039 41 12863"
  , "3 40 21332 41 12864 3 40 31085 41 12865 3 40 20241 41 12866 3 40 33258 41 12867 3 40"
  , "33267 41 12880 3 80 84 69 12881 2 50 49 12882 2 50 50 12883 2 50 51 12884 2 50 52 12885"
  , "2 50 53 12886 2 50 54 12887 2 50 55 12888 2 50 56 12889 2 50 57 12890 2 51 48 12891 2 51"
  , "49 12892 2 51 50 12893 2 51 51 12894 2 51 52 12895 2 51 53 12910 2 4352 4449 12911 2"
  , "4354 4449 12912 2 4355 4449 12913 2 4357 4449 12914 2 4358 4449 12915 2 4359 4449 12916"
  , "2 4361 4449 12917 2 4363 4449 12918 2 4364 4449 12919 2 4366 4449 12920 2 4367 4449"
  , "12921 2 4368 4449 12922 2 4369 4449 12923 2 4370 4449 12924 5 4366 4449 4535 4352 4457"
  , "12925 4 4364 4462 4363 4468 12926 2 4363 4462 12977 2 51 54 12978 2 51 55 12979 2 51 56"
  , "12980 2 51 57 12981 2 52 48 12982 2 52 49 12983 2 52 50 12984 2 52 51 12985 2 52 52"
  , "12986 2 52 53 12987 2 52 54 12988 2 52 55 12989 2 52 56 12990 2 52 57 12991 2 53 48"
  , "12992 2 49 26376 12993 2 50 26376 12994 2 51 26376 12995 2 52 26376 12996 2 53 26376"
  , "12997 2 54 26376 12998 2 55 26376 12999 2 56 26376 13000 2 57 26376 13001 3 49 48 26376"
  , "13002 3 49 49 26376 13003 3 49 50 26376 13004 2 72 103 13005 3 101 114 103 13006 2 101"
  , "86 13007 3 76 84 68 13055 2 20196 21644 13056 5 12450 12495 12442 12540 12488 13057 4"
  , "12450 12523 12501 12449 13058 5 12450 12531 12504 12442 12450 13059 3 12450 12540 12523"
  , "13060 5 12452 12491 12531 12463 12441 13061 3 12452 12531 12481 13062 3 12454 12457"
  , "12531 13063 6 12456 12473 12463 12540 12488 12441 13064 4 12456 12540 12459 12540 13065"
  , "3 12458 12531 12473 13066 3 12458 12540 12512 13067 3 12459 12452 12522 13068 4 12459"
  , "12521 12483 12488 13069 4 12459 12525 12522 12540 13070 4 12459 12441 12525 12531 13071"
  , "4 12459 12441 12531 12510 13072 4 12461 12441 12459 12441 13073 4 12461 12441 12491"
  , "12540 13074 4 12461 12517 12522 12540 13075 6 12461 12441 12523 12479 12441 12540 13076"
  , "2 12461 12525 13077 6 12461 12525 12463 12441 12521 12512 13078 6 12461 12525 12513"
  , "12540 12488 12523 13079 5 12461 12525 12527 12483 12488 13080 4 12463 12441 12521 12512"
  , "13081 6 12463 12441 12521 12512 12488 12531 13082 6 12463 12523 12475 12441 12452 12525"
  , "13083 4 12463 12525 12540 12493 13084 3 12465 12540 12473 13085 3 12467 12523 12490"
  , "13086 4 12467 12540 12507 12442 13087 4 12469 12452 12463 12523 13088 5 12469 12531"
  , "12481 12540 12512 13089 5 12471 12522 12531 12463 12441 13090 3 12475 12531 12481 13091"
  , "3 12475 12531 12488 13092 4 12479 12441 12540 12473 13093 3 12486 12441 12471 13094 3"
  , "12488 12441 12523 13095 2 12488 12531 13096 2 12490 12494 13097 3 12494 12483 12488"
  , "13098 3 12495 12452 12484 13099 6 12495 12442 12540 12475 12531 12488 13100 4 12495"
  , "12442 12540 12484 13101 5 12495 12441 12540 12524 12523 13102 6 12498 12442 12450 12473"
  , "12488 12523 13103 4 12498 12442 12463 12523 13104 3 12498 12442 12467 13105 3 12498"
  , "12441 12523 13106 6 12501 12449 12521 12483 12488 12441 13107 4 12501 12451 12540 12488"
  , "13108 6 12501 12441 12483 12471 12455 12523 13109 3 12501 12521 12531 13110 5 12504"
  , "12463 12479 12540 12523 13111 3 12504 12442 12477 13112 4 12504 12442 12491 12498 13113"
  , "3 12504 12523 12484 13114 4 12504 12442 12531 12473 13115 5 12504 12442 12540 12471"
  , "12441 13116 4 12504 12441 12540 12479 13117 5 12507 12442 12452 12531 12488 13118 4"
  , "12507 12441 12523 12488 13119 2 12507 12531 13120 5 12507 12442 12531 12488 12441 13121"
  , "3 12507 12540 12523 13122 3 12507 12540 12531 13123 4 12510 12452 12463 12525 13124 3"
  , "12510 12452 12523 13125 3 12510 12483 12495 13126 3 12510 12523 12463 13127 5 12510"
  , "12531 12471 12519 12531 13128 4 12511 12463 12525 12531 13129 2 12511 12522 13130 6"
  , "12511 12522 12495 12441 12540 12523 13131 3 12513 12459 12441 13132 5 12513 12459 12441"
  , "12488 12531 13133 4 12513 12540 12488 12523 13134 4 12516 12540 12488 12441 13135 3"
  , "12516 12540 12523 13136 3 12518 12450 12531 13137 4 12522 12483 12488 12523 13138 2"
  , "12522 12521 13139 4 12523 12498 12442 12540 13140 5 12523 12540 12501 12441 12523 13141"
  , "2 12524 12512 13142 6 12524 12531 12488 12465 12441 12531 13143 3 12527 12483 12488"
  , "13144 2 48 28857 13145 2 49 28857 13146 2 50 28857 13147 2 51 28857 13148 2 52 28857"
  , "13149 2 53 28857 13150 2 54 28857 13151 2 55 28857 13152 2 56 28857 13153 2 57 28857"
  , "13154 3 49 48 28857 13155 3 49 49 28857 13156 3 49 50 28857 13157 3 49 51 28857 13158 3"
  , "49 52 28857 13159 3 49 53 28857 13160 3 49 54 28857 13161 3 49 55 28857 13162 3 49 56"
  , "28857 13163 3 49 57 28857 13164 3 50 48 28857 13165 3 50 49 28857 13166 3 50 50 28857"
  , "13167 3 50 51 28857 13168 3 50 52 28857 13169 3 104 80 97 13170 2 100 97 13171 2 65 85"
  , "13172 3 98 97 114 13173 2 111 86 13174 2 112 99 13175 2 100 109 13176 3 100 109 50 13177"
  , "3 100 109 51 13178 2 73 85 13179 2 24179 25104 13180 2 26157 21644 13181 2 22823 27491"
  , "13182 2 26126 27835 13183 4 26666 24335 20250 31038 13184 2 112 65 13185 2 110 65 13186"
  , "2 956 65 13187 2 109 65 13188 2 107 65 13189 2 75 66 13190 2 77 66 13191 2 71 66 13192 3"
  , "99 97 108 13193 4 107 99 97 108 13194 2 112 70 13195 2 110 70 13196 2 956 70 13197 2 956"
  , "103 13198 2 109 103 13199 2 107 103 13200 2 72 122 13201 3 107 72 122 13202 3 77 72 122"
  , "13203 3 71 72 122 13204 3 84 72 122 13205 2 956 108 13206 2 109 108 13207 2 100 108"
  , "13208 2 107 108 13209 2 102 109 13210 2 110 109 13211 2 956 109 13212 2 109 109 13213 2"
  , "99 109 13214 2 107 109 13215 3 109 109 50 13216 3 99 109 50 13217 2 109 50 13218 3 107"
  , "109 50 13219 3 109 109 51 13220 3 99 109 51 13221 2 109 51 13222 3 107 109 51 13223 3"
  , "109 8725 115 13224 4 109 8725 115 50 13225 2 80 97 13226 3 107 80 97 13227 3 77 80 97"
  , "13228 3 71 80 97 13229 3 114 97 100 13230 5 114 97 100 8725 115 13231 6 114 97 100 8725"
  , "115 50 13232 2 112 115 13233 2 110 115 13234 2 956 115 13235 2 109 115 13236 2 112 86"
  , "13237 2 110 86 13238 2 956 86 13239 2 109 86 13240 2 107 86 13241 2 77 86 13242 2 112 87"
  , "13243 2 110 87 13244 2 956 87 13245 2 109 87 13246 2 107 87 13247 2 77 87 13248 2 107"
  , "937 13249 2 77 937 13250 4 97 46 109 46 13251 2 66 113 13252 2 99 99 13253 2 99 100"
  , "13254 4 67 8725 107 103 13255 3 67 111 46 13256 2 100 66 13257 2 71 121 13258 2 104 97"
  , "13259 2 72 80 13260 2 105 110 13261 2 75 75 13262 2 75 77 13263 2 107 116 13264 2 108"
  , "109 13265 2 108 110 13266 3 108 111 103 13267 2 108 120 13268 2 109 98 13269 3 109 105"
  , "108 13270 3 109 111 108 13271 2 80 72 13272 4 112 46 109 46 13273 3 80 80 77 13274 2 80"
  , "82 13275 2 115 114 13276 2 83 118 13277 2 87 98 13278 3 86 8725 109 13279 3 65 8725 109"
  , "13280 2 49 26085 13281 2 50 26085 13282 2 51 26085 13283 2 52 26085 13284 2 53 26085"
  , "13285 2 54 26085 13286 2 55 26085 13287 2 56 26085 13288 2 57 26085 13289 3 49 48 26085"
  , "13290 3 49 49 26085 13291 3 49 50 26085 13292 3 49 51 26085 13293 3 49 52 26085 13294 3"
  , "49 53 26085 13295 3 49 54 26085 13296 3 49 55 26085 13297 3 49 56 26085 13298 3 49 57"
  , "26085 13299 3 50 48 26085 13300 3 50 49 26085 13301 3 50 50 26085 13302 3 50 51 26085"
  , "13303 3 50 52 26085 13304 3 50 53 26085 13305 3 50 54 26085 13306 3 50 55 26085 13307 3"
  , "50 56 26085 13308 3 50 57 26085 13309 3 51 48 26085 13310 3 51 49 26085 13311 3 103 97"
  , "108 64256 2 102 102 64257 2 102 105 64258 2 102 108 64259 3 102 102 105 64260 3 102 102"
  , "108 64261 2 115 116 64262 2 115 116 64275 2 1396 1398 64276 2 1396 1381 64277 2 1396"
  , "1387 64278 2 1406 1398 64279 2 1396 1389 64335 2 1488 1500 64420 2 1749 1620 64421 2"
  , "1749 1620 64432 2 1746 1620 64433 2 1746 1620 64477 2 1735 1652 64490 3 1610 1620 1575"
  , "64491 3 1610 1620 1575 64492 3 1610 1620 1749 64493 3 1610 1620 1749 64494 3 1610 1620"
  , "1608 64495 3 1610 1620 1608 64496 3 1610 1620 1735 64497 3 1610 1620 1735 64498 3 1610"
  , "1620 1734 64499 3 1610 1620 1734 64500 3 1610 1620 1736 64501 3 1610 1620 1736 64502 3"
  , "1610 1620 1744 64503 3 1610 1620 1744 64504 3 1610 1620 1744 64505 3 1610 1620 1609"
  , "64506 3 1610 1620 1609 64507 3 1610 1620 1609 64512 3 1610 1620 1580 64513 3 1610 1620"
  , "1581 64514 3 1610 1620 1605 64515 3 1610 1620 1609 64516 3 1610 1620 1610 64517 2 1576"
  , "1580 64518 2 1576 1581 64519 2 1576 1582 64520 2 1576 1605 64521 2 1576 1609 64522 2"
  , "1576 1610 64523 2 1578 1580 64524 2 1578 1581 64525 2 1578 1582 64526 2 1578 1605 64527"
  , "2 1578 1609 64528 2 1578 1610 64529 2 1579 1580 64530 2 1579 1605 64531 2 1579 1609"
  , "64532 2 1579 1610 64533 2 1580 1581 64534 2 1580 1605 64535 2 1581 1580 64536 2 1581"
  , "1605 64537 2 1582 1580 64538 2 1582 1581 64539 2 1582 1605 64540 2 1587 1580 64541 2"
  , "1587 1581 64542 2 1587 1582 64543 2 1587 1605 64544 2 1589 1581 64545 2 1589 1605 64546"
  , "2 1590 1580 64547 2 1590 1581 64548 2 1590 1582 64549 2 1590 1605 64550 2 1591 1581"
  , "64551 2 1591 1605 64552 2 1592 1605 64553 2 1593 1580 64554 2 1593 1605 64555 2 1594"
  , "1580 64556 2 1594 1605 64557 2 1601 1580 64558 2 1601 1581 64559 2 1601 1582 64560 2"
  , "1601 1605 64561 2 1601 1609 64562 2 1601 1610 64563 2 1602 1581 64564 2 1602 1605 64565"
  , "2 1602 1609 64566 2 1602 1610 64567 2 1603 1575 64568 2 1603 1580 64569 2 1603 1581"
  , "64570 2 1603 1582 64571 2 1603 1604 64572 2 1603 1605 64573 2 1603 1609 64574 2 1603"
  , "1610 64575 2 1604 1580 64576 2 1604 1581 64577 2 1604 1582 64578 2 1604 1605 64579 2"
  , "1604 1609 64580 2 1604 1610 64581 2 1605 1580 64582 2 1605 1581 64583 2 1605 1582 64584"
  , "2 1605 1605 64585 2 1605 1609 64586 2 1605 1610 64587 2 1606 1580 64588 2 1606 1581"
  , "64589 2 1606 1582 64590 2 1606 1605 64591 2 1606 1609 64592 2 1606 1610 64593 2 1607"
  , "1580 64594 2 1607 1605 64595 2 1607 1609 64596 2 1607 1610 64597 2 1610 1580 64598 2"
  , "1610 1581 64599 2 1610 1582 64600 2 1610 1605 64601 2 1610 1609 64602 2 1610 1610 64603"
  , "2 1584 1648 64604 2 1585 1648 64605 2 1609 1648 64606 3 32 1612 1617 64607 3 32 1613"
  , "1617 64608 3 32 1614 1617 64609 3 32 1615 1617 64610 3 32 1616 1617 64611 3 32 1617 1648"
  , "64612 3 1610 1620 1585 64613 3 1610 1620 1586 64614 3 1610 1620 1605 64615 3 1610 1620"
  , "1606 64616 3 1610 1620 1609 64617 3 1610 1620 1610 64618 2 1576 1585 64619 2 1576 1586"
  , "64620 2 1576 1605 64621 2 1576 1606 64622 2 1576 1609 64623 2 1576 1610 64624 2 1578"
  , "1585 64625 2 1578 1586 64626 2 1578 1605 64627 2 1578 1606 64628 2 1578 1609 64629 2"
  , "1578 1610 64630 2 1579 1585 64631 2 1579 1586 64632 2 1579 1605 64633 2 1579 1606 64634"
  , "2 1579 1609 64635 2 1579 1610 64636 2 1601 1609 64637 2 1601 1610 64638 2 1602 1609"
  , "64639 2 1602 1610 64640 2 1603 1575 64641 2 1603 1604 64642 2 1603 1605 64643 2 1603"
  , "1609 64644 2 1603 1610 64645 2 1604 1605 64646 2 1604 1609 64647 2 1604 1610 64648 2"
  , "1605 1575 64649 2 1605 1605 64650 2 1606 1585 64651 2 1606 1586 64652 2 1606 1605 64653"
  , "2 1606 1606 64654 2 1606 1609 64655 2 1606 1610 64656 2 1609 1648 64657 2 1610 1585"
  , "64658 2 1610 1586 64659 2 1610 1605 64660 2 1610 1606 64661 2 1610 1609 64662 2 1610"
  , "1610 64663 3 1610 1620 1580 64664 3 1610 1620 1581 64665 3 1610 1620 1582 64666 3 1610"
  , "1620 1605 64667 3 1610 1620 1607 64668 2 1576 1580 64669 2 1576 1581 64670 2 1576 1582"
  , "64671 2 1576 1605 64672 2 1576 1607 64673 2 1578 1580 64674 2 1578 1581 64675 2 1578"
  , "1582 64676 2 1578 1605 64677 2 1578 1607 64678 2 1579 1605 64679 2 1580 1581 64680 2"
  , "1580 1605 64681 2 1581 1580 64682 2 1581 1605 64683 2 1582 1580 64684 2 1582 1605 64685"
  , "2 1587 1580 64686 2 1587 1581 64687 2 1587 1582 64688 2 1587 1605 64689 2 1589 1581"
  , "64690 2 1589 1582 64691 2 1589 1605 64692 2 1590 1580 64693 2 1590 1581 64694 2 1590"
  , "1582 64695 2 1590 1605 64696 2 1591 1581 64697 2 1592 1605 64698 2 1593 1580 64699 2"
  , "1593 1605 64700 2 1594 1580 64701 2 1594 1605 64702 2 1601 1580 64703 2 1601 1581 64704"
  , "2 1601 1582 64705 2 1601 1605 64706 2 1602 1581 64707 2 1602 1605 64708 2 1603 1580"
  , "64709 2 1603 1581 64710 2 1603 1582 64711 2 1603 1604 64712 2 1603 1605 64713 2 1604"
  , "1580 64714 2 1604 1581 64715 2 1604 1582 64716 2 1604 1605 64717 2 1604 1607 64718 2"
  , "1605 1580 64719 2 1605 1581 64720 2 1605 1582 64721 2 1605 1605 64722 2 1606 1580 64723"
  , "2 1606 1581 64724 2 1606 1582 64725 2 1606 1605 64726 2 1606 1607 64727 2 1607 1580"
  , "64728 2 1607 1605 64729 2 1607 1648 64730 2 1610 1580 64731 2 1610 1581 64732 2 1610"
  , "1582 64733 2 1610 1605 64734 2 1610 1607 64735 3 1610 1620 1605 64736 3 1610 1620 1607"
  , "64737 2 1576 1605 64738 2 1576 1607 64739 2 1578 1605 64740 2 1578 1607 64741 2 1579"
  , "1605 64742 2 1579 1607 64743 2 1587 1605 64744 2 1587 1607 64745 2 1588 1605 64746 2"
  , "1588 1607 64747 2 1603 1604 64748 2 1603 1605 64749 2 1604 1605 64750 2 1606 1605 64751"
  , "2 1606 1607 64752 2 1610 1605 64753 2 1610 1607 64754 3 1600 1614 1617 64755 3 1600 1615"
  , "1617 64756 3 1600 1616 1617 64757 2 1591 1609 64758 2 1591 1610 64759 2 1593 1609 64760"
  , "2 1593 1610 64761 2 1594 1609 64762 2 1594 1610 64763 2 1587 1609 64764 2 1587 1610"
  , "64765 2 1588 1609 64766 2 1588 1610 64767 2 1581 1609 64768 2 1581 1610 64769 2 1580"
  , "1609 64770 2 1580 1610 64771 2 1582 1609 64772 2 1582 1610 64773 2 1589 1609 64774 2"
  , "1589 1610 64775 2 1590 1609 64776 2 1590 1610 64777 2 1588 1580 64778 2 1588 1581 64779"
  , "2 1588 1582 64780 2 1588 1605 64781 2 1588 1585 64782 2 1587 1585 64783 2 1589 1585"
  , "64784 2 1590 1585 64785 2 1591 1609 64786 2 1591 1610 64787 2 1593 1609 64788 2 1593"
  , "1610 64789 2 1594 1609 64790 2 1594 1610 64791 2 1587 1609 64792 2 1587 1610 64793 2"
  , "1588 1609 64794 2 1588 1610 64795 2 1581 1609 64796 2 1581 1610 64797 2 1580 1609 64798"
  , "2 1580 1610 64799 2 1582 1609 64800 2 1582 1610 64801 2 1589 1609 64802 2 1589 1610"
  , "64803 2 1590 1609 64804 2 1590 1610 64805 2 1588 1580 64806 2 1588 1581 64807 2 1588"
  , "1582 64808 2 1588 1605 64809 2 1588 1585 64810 2 1587 1585 64811 2 1589 1585 64812 2"
  , "1590 1585 64813 2 1588 1580 64814 2 1588 1581 64815 2 1588 1582 64816 2 1588 1605 64817"
  , "2 1587 1607 64818 2 1588 1607 64819 2 1591 1605 64820 2 1587 1580 64821 2 1587 1581"
  , "64822 2 1587 1582 64823 2 1588 1580 64824 2 1588 1581 64825 2 1588 1582 64826 2 1591"
  , "1605 64827 2 1592 1605 64828 2 1575 1611 64829 2 1575 1611 64848 3 1578 1580 1605 64849"
  , "3 1578 1581 1580 64850 3 1578 1581 1580 64851 3 1578 1581 1605 64852 3 1578 1582 1605"
  , "64853 3 1578 1605 1580 64854 3 1578 1605 1581 64855 3 1578 1605 1582 64856 3 1580 1605"
  , "1581 64857 3 1580 1605 1581 64858 3 1581 1605 1610 64859 3 1581 1605 1609 64860 3 1587"
  , "1581 1580 64861 3 1587 1580 1581 64862 3 1587 1580 1609 64863 3 1587 1605 1581 64864 3"
  , "1587 1605 1581 64865 3 1587 1605 1580 64866 3 1587 1605 1605 64867 3 1587 1605 1605"
  , "64868 3 1589 1581 1581 64869 3 1589 1581 1581 64870 3 1589 1605 1605 64871 3 1588 1581"
  , "1605 64872 3 1588 1581 1605 64873 3 1588 1580 1610 64874 3 1588 1605 1582 64875 3 1588"
  , "1605 1582 64876 3 1588 1605 1605 64877 3 1588 1605 1605 64878 3 1590 1581 1609 64879 3"
  , "1590 1582 1605 64880 3 1590 1582 1605 64881 3 1591 1605 1581 64882 3 1591 1605 1581"
  , "64883 3 1591 1605 1605 64884 3 1591 1605 1610 64885 3 1593 1580 1605 64886 3 1593 1605"
  , "1605 64887 3 1593 1605 1605 64888 3 1593 1605 1609 64889 3 1594 1605 1605 64890 3 1594"
  , "1605 1610 64891 3 1594 1605 1609 64892 3 1601 1582 1605 64893 3 1601 1582 1605 64894 3"
  , "1602 1605 1581 64895 3 1602 1605 1605 64896 3 1604 1581 1605 64897 3 1604 1581 1610"
  , "64898 3 1604 1581 1609 64899 3 1604 1580 1580 64900 3 1604 1580 1580 64901 3 1604 1582"
  , "1605 64902 3 1604 1582 1605 64903 3 1604 1605 1581 64904 3 1604 1605 1581 64905 3 1605"
  , "1581 1580 64906 3 1605 1581 1605 64907 3 1605 1581 1610 64908 3 1605 1580 1581 64909 3"
  , "1605 1580 1605 64910 3 1605 1582 1580 64911 3 1605 1582 1605 64914 3 1605 1580 1582"
  , "64915 3 1607 1605 1580 64916 3 1607 1605 1605 64917 3 1606 1581 1605 64918 3 1606 1581"
  , "1609 64919 3 1606 1580 1605 64920 3 1606 1580 1605 64921 3 1606 1580 1609 64922 3 1606"
  , "1605 1610 64923 3 1606 1605 1609 64924 3 1610 1605 1605 64925 3 1610 1605 1605 64926 3"
  , "1576 1582 1610 64927 3 1578 1580 1610 64928 3 1578 1580 1609 64929 3 1578 1582 1610"
  , "64930 3 1578 1582 1609 64931 3 1578 1605 1610 64932 3 1578 1605 1609 64933 3 1580 1605"
  , "1610 64934 3 1580 1581 1609 64935 3 1580 1605 1609 64936 3 1587 1582 1609 64937 3 1589"
  , "1581 1610 64938 3 1588 1581 1610 64939 3 1590 1581 1610 64940 3 1604 1580 1610 64941 3"
  , "1604 1605 1610 64942 3 1610 1581 1610 64943 3 1610 1580 1610 64944 3 1610 1605 1610"
  , "64945 3 1605 1605 1610 64946 3 1602 1605 1610 64947 3 1606 1581 1610 64948 3 1602 1605"
  , "1581 64949 3 1604 1581 1605 64950 3 1593 1605 1610 64951 3 1603 1605 1610 64952 3 1606"
  , "1580 1581 64953 3 1605 1582 1610 64954 3 1604 1580 1605 64955 3 1603 1605 1605 64956 3"
  , "1604 1580 1605 64957 3 1606 1580 1581 64958 3 1580 1581 1610 64959 3 1581 1580 1610"
  , "64960 3 1605 1580 1610 64961 3 1601 1605 1610 64962 3 1576 1581 1610 64963 3 1603 1605"
  , "1605 64964 3 1593 1580 1605 64965 3 1589 1605 1605 64966 3 1587 1582 1610 64967 3 1606"
  , "1580 1610 65008 3 1589 1604 1746 65009 3 1602 1604 1746 65010 4 1575 1604 1604 1607"
  , "65011 4 1575 1603 1576 1585 65012 4 1605 1581 1605 1583 65013 4 1589 1604 1593 1605"
  , "65014 4 1585 1587 1608 1604 65015 4 1593 1604 1610 1607 65016 4 1608 1587 1604 1605"
  , "65017 3 1589 1604 1609 65018 18 1589 1604 1609 32 1575 1604 1604 1607 32 1593 1604 1610"
  , "1607 32 1608 1587 1604 1605 65019 8 1580 1604 32 1580 1604 1575 1604 1607 65020 4 1585"
  , "1740 1575 1604 65049 3 46 46 46 65072 2 46 46 65097 2 32 773 65098 2 32 773 65099 2 32"
  , "773 65100 2 32 773 65136 2 32 1611 65137 2 1600 1611 65138 2 32 1612 65140 2 32 1613"
  , "65142 2 32 1614 65143 2 1600 1614 65144 2 32 1615 65145 2 1600 1615 65146 2 32 1616"
  , "65147 2 1600 1616 65148 2 32 1617 65149 2 1600 1617 65150 2 32 1618 65151 2 1600 1618"
  , "65153 2 1575 1619 65154 2 1575 1619 65155 2 1575 1620 65156 2 1575 1620 65157 2 1608"
  , "1620 65158 2 1608 1620 65159 2 1575 1621 65160 2 1575 1621 65161 2 1610 1620 65162 2"
  , "1610 1620 65163 2 1610 1620 65164 2 1610 1620 65269 3 1604 1575 1619 65270 3 1604 1575"
  , "1619 65271 3 1604 1575 1620 65272 3 1604 1575 1620 65273 3 1604 1575 1621 65274 3 1604"
  , "1575 1621 65275 2 1604 1575 65276 2 1604 1575 65507 2 32 772 127232 2 48 46 127233 2 48"
  , "44 127234 2 49 44 127235 2 50 44 127236 2 51 44 127237 2 52 44 127238 2 53 44 127239 2"
  , "54 44 127240 2 55 44 127241 2 56 44 127242 2 57 44 127248 3 40 65 41 127249 3 40 66 41"
  , "127250 3 40 67 41 127251 3 40 68 41 127252 3 40 69 41 127253 3 40 70 41 127254 3 40 71"
  , "41 127255 3 40 72 41 127256 3 40 73 41 127257 3 40 74 41 127258 3 40 75 41 127259 3 40"
  , "76 41 127260 3 40 77 41 127261 3 40 78 41 127262 3 40 79 41 127263 3 40 80 41 127264 3"
  , "40 81 41 127265 3 40 82 41 127266 3 40 83 41 127267 3 40 84 41 127268 3 40 85 41 127269"
  , "3 40 86 41 127270 3 40 87 41 127271 3 40 88 41 127272 3 40 89 41 127273 3 40 90 41"
  , "127274 3 12308 83 12309 127277 2 67 68 127278 2 87 90 127306 2 72 86 127307 2 77 86"
  , "127308 2 83 68 127309 2 83 83 127310 3 80 80 86 127311 2 87 67 127338 2 77 67 127339 2"
  , "77 68 127340 2 77 82 127376 2 68 74 127488 2 12411 12363 127489 2 12467 12467 127507 2"
  , "12486 12441 127552 3 12308 26412 12309 127553 3 12308 19977 12309 127554 3 12308 20108"
  , "12309 127555 3 12308 23433 12309 127556 3 12308 28857 12309 127557 3 12308 25171 12309"
  , "127558 3 12308 30423 12309 127559 3 12308 21213 12309 127560 3 12308 25943 12309" ]

end Normal

end Text

end Devirt
