/-
  The characters that are equal to sequences of others.

  Key definitions include:
    * `Text.Normal.pairNumbers`, characters made of a character and a mark
    * `Text.Normal.singleNumbers`, `Text.Normal.longNumbers`, those that are never made
    * `Text.Normal.classNumbers`, the classes of marks
-/

namespace Devirt

namespace Text

namespace Normal

/-
  For each mark the number of characters made with it, and each of these with the
  character that the mark is put on.
-/
def pairNumbers : List String :=
  [ "768 84 192 65 200 69 204 73 210 79 217 85 224 97 232 101 236 105 242 111 249 117 475 220"
  , "476 252 504 78 505 110 1024 1045 1037 1048 1104 1077 1117 1080 7700 274 7701 275 7760"
  , "332 7761 333 7808 87 7809 119 7846 194 7847 226 7856 258 7857 259 7872 202 7873 234 7890"
  , "212 7891 244 7900 416 7901 417 7914 431 7915 432 7922 89 7923 121 7938 7936 7939 7937"
  , "7946 7944 7947 7945 7954 7952 7955 7953 7962 7960 7963 7961 7970 7968 7971 7969 7978"
  , "7976 7979 7977 7986 7984 7987 7985 7994 7992 7995 7993 8002 8000 8003 8001 8010 8008"
  , "8011 8009 8018 8016 8019 8017 8027 8025 8034 8032 8035 8033 8042 8040 8043 8041 8048 945"
  , "8050 949 8052 951 8054 953 8056 959 8058 965 8060 969 8122 913 8136 917 8138 919 8141"
  , "8127 8146 970 8154 921 8157 8190 8162 971 8170 933 8173 168 8184 927 8186 937 769 117"
  , "193 65 201 69 205 73 211 79 218 85 221 89 225 97 233 101 237 105 243 111 250 117 253 121"
  , "262 67 263 99 313 76 314 108 323 78 324 110 340 82 341 114 346 83 347 115 377 90 378 122"
  , "471 220 472 252 500 71 501 103 506 197 507 229 508 198 509 230 510 216 511 248 901 168"
  , "902 913 904 917 905 919 906 921 908 927 910 933 911 937 912 970 940 945 941 949 942 951"
  , "943 953 944 971 972 959 973 965 974 969 979 978 1027 1043 1036 1050 1107 1075 1116 1082"
  , "7688 199 7689 231 7702 274 7703 275 7726 207 7727 239 7728 75 7729 107 7742 77 7743 109"
  , "7756 213 7757 245 7762 332 7763 333 7764 80 7765 112 7800 360 7801 361 7810 87 7811 119"
  , "7844 194 7845 226 7854 258 7855 259 7870 202 7871 234 7888 212 7889 244 7898 416 7899"
  , "417 7912 431 7913 432 7940 7936 7941 7937 7948 7944 7949 7945 7956 7952 7957 7953 7964"
  , "7960 7965 7961 7972 7968 7973 7969 7980 7976 7981 7977 7988 7984 7989 7985 7996 7992"
  , "7997 7993 8004 8000 8005 8001 8012 8008 8013 8009 8020 8016 8021 8017 8029 8025 8036"
  , "8032 8037 8033 8044 8040 8045 8041 8142 8127 8158 8190 770 32 194 65 202 69 206 73 212"
  , "79 219 85 226 97 234 101 238 105 244 111 251 117 264 67 265 99 284 71 285 103 292 72 293"
  , "104 308 74 309 106 348 83 349 115 372 87 373 119 374 89 375 121 7824 90 7825 122 7852"
  , "7840 7853 7841 7878 7864 7879 7865 7896 7884 7897 7885 771 28 195 65 209 78 213 79 227"
  , "97 241 110 245 111 296 73 297 105 360 85 361 117 7804 86 7805 118 7850 194 7851 226 7860"
  , "258 7861 259 7868 69 7869 101 7876 202 7877 234 7894 212 7895 244 7904 416 7905 417 7918"
  , "431 7919 432 7928 89 7929 121 776 54 196 65 203 69 207 73 214 79 220 85 228 97 235 101"
  , "239 105 246 111 252 117 255 121 376 89 938 921 939 933 970 953 971 965 980 978 1025 1045"
  , "1031 1030 1105 1077 1111 1110 1234 1040 1235 1072 1242 1240 1243 1241 1244 1046 1245"
  , "1078 1246 1047 1247 1079 1252 1048 1253 1080 1254 1054 1255 1086 1258 1256 1259 1257"
  , "1260 1069 1261 1101 1264 1059 1265 1091 1268 1063 1269 1095 1272 1067 1273 1099 7718 72"
  , "7719 104 7758 213 7759 245 7802 362 7803 363 7812 87 7813 119 7820 88 7821 120 7831 116"
  , "778 6 197 65 229 97 366 85 367 117 7832 119 7833 121 807 22 199 67 231 99 290 71 291 103"
  , "310 75 311 107 315 76 316 108 325 78 326 110 342 82 343 114 350 83 351 115 354 84 355"
  , "116 552 69 553 101 7696 68 7697 100 7720 72 7721 104 772 44 256 65 257 97 274 69 275 101"
  , "298 73 299 105 332 79 333 111 362 85 363 117 469 220 470 252 478 196 479 228 480 550 481"
  , "551 482 198 483 230 492 490 493 491 554 214 555 246 556 213 557 245 560 558 561 559 562"
  , "89 563 121 1250 1048 1251 1080 1262 1059 1263 1091 7712 71 7713 103 7736 7734 7737 7735"
  , "7772 7770 7773 7771 8113 945 8121 913 8145 953 8153 921 8161 965 8169 933 774 32 258 65"
  , "259 97 276 69 277 101 286 71 287 103 300 73 301 105 334 79 335 111 364 85 365 117 1038"
  , "1059 1049 1048 1081 1080 1118 1091 1217 1046 1218 1078 1232 1040 1233 1072 1238 1045"
  , "1239 1077 7708 552 7709 553 7862 7840 7863 7841 8112 945 8120 913 8144 953 8152 921 8160"
  , "965 8168 933 808 10 260 65 261 97 280 69 281 101 302 73 303 105 370 85 371 117 490 79"
  , "491 111 775 48 266 67 267 99 278 69 279 101 288 71 289 103 304 73 379 90 380 122 550 65"
  , "551 97 558 79 559 111 7682 66 7683 98 7690 68 7691 100 7710 70 7711 102 7714 72 7715 104"
  , "7744 77 7745 109 7748 78 7749 110 7766 80 7767 112 7768 82 7769 114 7776 83 7777 115"
  , "7780 346 7781 347 7782 352 7783 353 7784 7778 7785 7779 7786 84 7787 116 7814 87 7815"
  , "119 7818 88 7819 120 7822 89 7823 121 7835 383 67017 67026 67044 67034 780 37 268 67 269"
  , "99 270 68 271 100 282 69 283 101 317 76 318 108 327 78 328 110 344 82 345 114 352 83 353"
  , "115 356 84 357 116 381 90 382 122 461 65 462 97 463 73 464 105 465 79 466 111 467 85 468"
  , "117 473 220 474 252 486 71 487 103 488 75 489 107 494 439 495 658 496 106 542 72 543 104"
  , "779 6 336 79 337 111 368 85 369 117 1266 1059 1267 1091 795 4 416 79 417 111 431 85 432"
  , "117 783 14 512 65 513 97 516 69 517 101 520 73 521 105 524 79 525 111 528 82 529 114 532"
  , "85 533 117 1142 1140 1143 1141 785 12 514 65 515 97 518 69 519 101 522 73 523 105 526 79"
  , "527 111 530 82 531 114 534 85 535 117 806 4 536 83 537 115 538 84 539 116 1619 1 1570"
  , "1575 1620 6 1571 1575 1572 1608 1574 1610 1728 1749 1730 1729 1747 1746 1621 1 1573 1575"
  , "2364 3 2345 2344 2353 2352 2356 2355 2494 1 2507 2503 2519 1 2508 2503 2902 1 2888 2887"
  , "2878 1 2891 2887 2903 1 2892 2887 3031 2 2964 2962 3020 3014 3006 2 3018 3014 3019 3015"
  , "3158 1 3144 3142 3285 3 3264 3263 3271 3270 3275 3274 3286 1 3272 3270 3266 1 3274 3270"
  , "3390 2 3402 3398 3403 3399 3415 1 3404 3398 3530 2 3546 3545 3549 3548 3535 1 3548 3545"
  , "3551 1 3550 3545 4142 1 4134 4133 6965 11 6918 6917 6920 6919 6922 6921 6924 6923 6926"
  , "6925 6930 6929 6971 6970 6973 6972 6976 6974 6977 6975 6979 6978 805 2 7680 65 7681 97"
  , "803 42 7684 66 7685 98 7692 68 7693 100 7716 72 7717 104 7730 75 7731 107 7734 76 7735"
  , "108 7746 77 7747 109 7750 78 7751 110 7770 82 7771 114 7778 83 7779 115 7788 84 7789 116"
  , "7806 86 7807 118 7816 87 7817 119 7826 90 7827 122 7840 65 7841 97 7864 69 7865 101 7882"
  , "73 7883 105 7884 79 7885 111 7906 416 7907 417 7908 85 7909 117 7920 431 7921 432 7924"
  , "89 7925 121 817 17 7686 66 7687 98 7694 68 7695 100 7732 75 7733 107 7738 76 7739 108"
  , "7752 78 7753 110 7774 82 7775 114 7790 84 7791 116 7828 90 7829 122 7830 104 813 12 7698"
  , "68 7699 100 7704 69 7705 101 7740 76 7741 108 7754 78 7755 110 7792 84 7793 116 7798 85"
  , "7799 117 816 6 7706 69 7707 101 7724 73 7725 105 7796 85 7797 117 814 2 7722 72 7723 104"
  , "804 2 7794 85 7795 117 777 24 7842 65 7843 97 7848 194 7849 226 7858 258 7859 259 7866"
  , "69 7867 101 7874 202 7875 234 7880 73 7881 105 7886 79 7887 111 7892 212 7893 244 7902"
  , "416 7903 417 7910 85 7911 117 7916 431 7917 432 7926 89 7927 121 787 14 7936 945 7944"
  , "913 7952 949 7960 917 7968 951 7976 919 7984 953 7992 921 8000 959 8008 927 8016 965"
  , "8032 969 8040 937 8164 961 788 16 7937 945 7945 913 7953 949 7961 917 7969 951 7977 919"
  , "7985 953 7993 921 8001 959 8009 927 8017 965 8025 933 8033 969 8041 937 8165 961 8172"
  , "929 834 29 7942 7936 7943 7937 7950 7944 7951 7945 7974 7968 7975 7969 7982 7976 7983"
  , "7977 7990 7984 7991 7985 7998 7992 7999 7993 8022 8016 8023 8017 8031 8025 8038 8032"
  , "8039 8033 8046 8040 8047 8041 8118 945 8129 168 8134 951 8143 8127 8150 953 8151 970"
  , "8159 8190 8166 965 8167 971 8182 969 837 63 8064 7936 8065 7937 8066 7938 8067 7939 8068"
  , "7940 8069 7941 8070 7942 8071 7943 8072 7944 8073 7945 8074 7946 8075 7947 8076 7948"
  , "8077 7949 8078 7950 8079 7951 8080 7968 8081 7969 8082 7970 8083 7971 8084 7972 8085"
  , "7973 8086 7974 8087 7975 8088 7976 8089 7977 8090 7978 8091 7979 8092 7980 8093 7981"
  , "8094 7982 8095 7983 8096 8032 8097 8033 8098 8034 8099 8035 8100 8036 8101 8037 8102"
  , "8038 8103 8039 8104 8040 8105 8041 8106 8042 8107 8043 8108 8044 8109 8045 8110 8046"
  , "8111 8047 8114 8048 8115 945 8116 940 8119 8118 8124 913 8130 8052 8131 951 8132 942"
  , "8135 8134 8140 919 8178 8060 8179 969 8180 974 8183 8182 8188 937 824 44 8602 8592 8603"
  , "8594 8622 8596 8653 8656 8654 8660 8655 8658 8708 8707 8713 8712 8716 8715 8740 8739"
  , "8742 8741 8769 8764 8772 8771 8775 8773 8777 8776 8800 61 8802 8801 8813 8781 8814 60"
  , "8815 62 8816 8804 8817 8805 8820 8818 8821 8819 8824 8822 8825 8823 8832 8826 8833 8827"
  , "8836 8834 8837 8835 8840 8838 8841 8839 8876 8866 8877 8872 8878 8873 8879 8875 8928"
  , "8828 8929 8829 8930 8849 8931 8850 8938 8882 8939 8883 8940 8884 8941 8885 12441 48"
  , "12364 12363 12366 12365 12368 12367 12370 12369 12372 12371 12374 12373 12376 12375"
  , "12378 12377 12380 12379 12382 12381 12384 12383 12386 12385 12389 12388 12391 12390"
  , "12393 12392 12400 12399 12403 12402 12406 12405 12409 12408 12412 12411 12436 12358"
  , "12446 12445 12460 12459 12462 12461 12464 12463 12466 12465 12468 12467 12470 12469"
  , "12472 12471 12474 12473 12476 12475 12478 12477 12480 12479 12482 12481 12485 12484"
  , "12487 12486 12489 12488 12496 12495 12499 12498 12502 12501 12505 12504 12508 12507"
  , "12532 12454 12535 12527 12536 12528 12537 12529 12538 12530 12542 12541 12442 10 12401"
  , "12399 12404 12402 12407 12405 12410 12408 12413 12411 12497 12495 12500 12498 12503"
  , "12501 12506 12504 12509 12507 69818 3 69786 69785 69788 69787 69803 69797 69927 2 69934"
  , "69937 69935 69938 70462 1 70475 70471 70487 1 70476 70471 70601 3 70531 70530 70545"
  , "70544 70600 70594 70587 1 70533 70532 70594 2 70542 70539 70597 70594 70584 1 70599"
  , "70594 70842 1 70843 70841 70832 1 70844 70841 70845 1 70846 70841 71087 2 71098 71096"
  , "71099 71097 71984 1 71992 71989 90398 1 90401 90398 90409 1 90402 90398 90399 4 90403"
  , "90398 90404 90409 90406 90401 90407 90402 90400 2 90405 90398 90408 90401 93543 3 93544"
  , "93543 93545 93539 93546 93545" ]

/-
  Runs of characters that are equal to single others: the first, their number, and what
  each is equal to.
-/
def singleNumbers : List String :=
  [ "832 2 768 769 835 1 787 884 1 697 894 1 59 903 1 183 8126 1 953 8175 1 96 8189 1 180"
  , "8192 2 8194 8195 8486 1 937 8490 1 75 9001 2 12296 12297 63744 270 35912 26356 36554"
  , "36040 28369 20018 21477 40860 40860 22865 37329 21895 22856 25078 30313 32645 34367"
  , "34746 35064 37007 27138 27931 28889 29662 33853 37226 39409 20098 21365 27396 29211"
  , "34349 40478 23888 28651 34253 35172 25289 33240 34847 24266 26391 28010 29436 37070"
  , "20358 20919 21214 25796 27347 29200 30439 32769 34310 34396 36335 38706 39791 40442"
  , "30860 31103 32160 33737 37636 40575 35542 22751 24324 31840 32894 29282 30922 36034"
  , "38647 22744 23650 27155 28122 28431 32047 32311 38475 21202 32907 20956 20940 31260"
  , "32190 33777 38517 35712 25295 27138 35582 20025 23527 24594 29575 30064 21271 30971"
  , "20415 24489 19981 27852 25976 32034 21443 22622 30465 33865 35498 27578 36784 27784"
  , "25342 33509 25504 30053 20142 20841 20937 26753 31975 33391 35538 37327 21237 21570"
  , "22899 24300 26053 28670 31018 38317 39530 40599 40654 21147 26310 27511 36706 24180"
  , "24976 25088 25754 28451 29001 29833 31178 32244 32879 36646 34030 36899 37706 21015"
  , "21155 21693 28872 35010 35498 24265 24565 25467 27566 31806 29557 20196 22265 23527"
  , "23994 24604 29618 29801 32666 32838 37428 38646 38728 38936 20363 31150 37300 38584"
  , "24801 20102 20698 23534 23615 26009 27138 29134 30274 34044 36988 40845 26248 38446"
  , "21129 26491 26611 27969 28316 29705 30041 30827 32016 39006 20845 25134 38520 20523"
  , "23833 28138 36650 24459 24900 26647 29575 38534 21033 21519 23653 26131 26446 26792"
  , "27877 29702 30178 32633 35023 35041 37324 38626 21311 28346 21533 29136 29848 34298"
  , "38563 40023 40607 26519 28107 33256 31435 31520 31890 29376 28825 35672 20160 33590"
  , "21050 20999 24230 25299 31958 23429 27934 26292 36667 34892 38477 35211 24275 20800"
  , "21952 64016 1 22618 64018 1 26228 64021 10 20958 29482 30410 31036 31070 31077 31119"
  , "38742 31934 32701 64032 1 34322 64034 1 35576 64037 2 36920 37117 64042 68 39151 39164"
  , "39208 40372 37086 38583 20398 20711 20813 21193 21220 21329 21917 22022 22120 22592"
  , "22696 23652 23662 24724 24936 24974 25074 25935 26082 26257 26757 28023 28186 28450"
  , "29038 29227 29730 30865 31038 31049 31048 31056 31062 31069 31117 31118 31296 31361"
  , "31680 32244 32265 32321 32626 32773 33261 33401 33401 33879 35088 35222 35585 35641"
  , "36051 36104 36790 36920 38627 38911 38971 24693 148206 33304 64112 106 20006 20917 20840"
  , "20352 20805 20864 21191 21242 21917 21845 21913 21986 22618 22707 22852 22868 23138"
  , "23336 24274 24281 24425 24493 24792 24910 24840 24974 24928 25074 25140 25540 25628"
  , "25682 25942 26228 26391 26395 26454 27513 27578 27969 28379 28363 28450 28702 29038"
  , "30631 29237 29359 29482 29809 29958 30011 30237 30239 30410 30427 30452 30538 30528"
  , "30924 31409 31680 31867 32091 32244 32574 32773 33618 33775 34681 35137 35206 35222"
  , "35519 35576 35531 35585 35582 35565 35641 35722 36104 36664 36978 37273 37494 38524"
  , "38627 38742 38875 38911 38923 38971 39698 40860 141386 141380 144341 15261 16408 16441"
  , "152137 154832 163539 40771 40846 194560 542 20029 20024 20033 131362 20320 20398 20411"
  , "20482 20602 20633 20711 20687 13470 132666 20813 20820 20836 20855 132380 13497 20839"
  , "20877 132427 20887 20900 20172 20908 20917 168415 20981 20995 13535 21051 21062 21106"
  , "21111 13589 21191 21193 21220 21242 21253 21254 21271 21321 21329 21338 21363 21373"
  , "21375 21375 21375 133676 28784 21450 21471 133987 21483 21489 21510 21662 21560 21576"
  , "21608 21666 21750 21776 21843 21859 21892 21892 21913 21931 21939 21954 22294 22022"
  , "22295 22097 22132 20999 22766 22478 22516 22541 22411 22578 22577 22700 136420 22770"
  , "22775 22790 22810 22818 22882 136872 136938 23020 23067 23079 23000 23142 14062 14076"
  , "23304 23358 23358 137672 23491 23512 23527 23539 138008 23551 23558 24403 23586 14209"
  , "23648 23662 23744 23693 138724 23875 138726 23918 23915 23932 24033 24034 14383 24061"
  , "24104 24125 24169 14434 139651 14460 24240 24243 24246 24266 172946 24318 140081 140081"
  , "33281 24354 24354 14535 144056 156122 24418 24427 14563 24474 24525 24535 24569 24705"
  , "14650 14620 24724 141012 24775 24904 24908 24910 24908 24954 24974 25010 24996 25007"
  , "25054 25074 25078 25104 25115 25181 25265 25300 25424 142092 25405 25340 25448 25475"
  , "25572 142321 25634 25541 25513 14894 25705 25726 25757 25719 14956 25935 25964 143370"
  , "26083 26360 26185 15129 26257 15112 15076 20882 20885 26368 26268 32941 17369 26391"
  , "26395 26401 26462 26451 144323 15177 26618 26501 26706 26757 144493 26766 26655 26900"
  , "15261 26946 27043 27114 27304 145059 27355 15384 27425 145575 27476 15438 27506 27551"
  , "27578 27579 146061 138507 146170 27726 146620 27839 27853 27751 27926 27966 28023 27969"
  , "28009 28024 28037 146718 27956 28207 28270 15667 28363 28359 147153 28153 28526 147294"
  , "147342 28614 28729 28702 28699 15766 28746 28797 28791 28845 132389 28997 148067 29084"
  , "148395 29224 29237 29264 149000 29312 29333 149301 149524 29562 29579 16044 29605 16056"
  , "16056 29767 29788 29809 29829 29898 16155 29988 150582 30014 150674 30064 139679 30224"
  , "151457 151480 151620 16380 16392 30452 151795 151794 151833 151859 30494 30495 30495"
  , "30538 16441 30603 16454 16534 152605 30798 30860 30924 16611 153126 31062 153242 153285"
  , "31119 31211 16687 31296 31306 31311 153980 154279 154279 31470 16898 154539 31686 31689"
  , "16935 154752 31954 17056 31976 31971 32000 155526 32099 17153 32199 32258 32325 17204"
  , "156200 156231 17241 156377 32634 156478 32661 32762 32773 156890 156963 32864 157096"
  , "32880 144223 17365 32946 33027 17419 33086 23221 157607 157621 144275 144284 33281 33284"
  , "36766 17515 33425 33419 33437 21171 33457 33459 33469 33510 158524 33509 33565 33635"
  , "33709 33571 33725 33767 33879 33619 33738 33740 33756 158774 159083 158933 17707 34033"
  , "34035 34070 160714 34148 159532 17757 17761 159665 159954 17771 34384 34396 34407 34409"
  , "34473 34440 34574 34530 34681 34600 34667 34694 17879 34785 34817 17913 34912 34915"
  , "161383 35031 35038 17973 35066 13499 161966 162150 18110 18119 35488 35565 35722 35925"
  , "162984 36011 36033 36123 36215 163631 133124 36299 36284 36336 133342 36564 36664 165330"
  , "165357 37012 37105 37137 165678 37147 37432 37591 37592 37500 37881 37909 166906 38283"
  , "18837 38327 167287 18918 38595 23986 38691 168261 168474 19054 19062 38880 168970 19122"
  , "169110 38923 38923 38953 169398 39138 19251 39209 39335 39362 39422 19406 170800 39698"
  , "40000 40189 19662 19693 40295 172238 19704 172293 172558 172689 40635 19798 40697 40702"
  , "40709 40719 40726 40763 173568" ]

/-
  Other characters, each with the length of the sequence that it is equal to, and that.
-/
def longNumbers : List String :=
  [ "836 2 776 769 2392 2 2325 2364 2393 2 2326 2364 2394 2 2327 2364 2395 2 2332 2364 2396 2"
  , "2337 2364 2397 2 2338 2364 2398 2 2347 2364 2399 2 2351 2364 2524 2 2465 2492 2525 2"
  , "2466 2492 2527 2 2479 2492 2611 2 2610 2620 2614 2 2616 2620 2649 2 2582 2620 2650 2"
  , "2583 2620 2651 2 2588 2620 2654 2 2603 2620 2908 2 2849 2876 2909 2 2850 2876 3907 2"
  , "3906 4023 3917 2 3916 4023 3922 2 3921 4023 3927 2 3926 4023 3932 2 3931 4023 3945 2"
  , "3904 4021 3955 2 3953 3954 3957 2 3953 3956 3958 2 4018 3968 3960 2 4019 3968 3969 2"
  , "3953 3968 3987 2 3986 4023 3997 2 3996 4023 4002 2 4001 4023 4007 2 4006 4023 4012 2"
  , "4011 4023 4025 2 3984 4021 8049 2 945 769 8051 2 949 769 8053 2 951 769 8055 2 953 769"
  , "8057 2 959 769 8059 2 965 769 8061 2 969 769 8123 2 913 769 8137 2 917 769 8139 2 919"
  , "769 8147 3 953 776 769 8155 2 921 769 8163 3 965 776 769 8171 2 933 769 8174 2 168 769"
  , "8185 2 927 769 8187 2 937 769 8491 2 65 778 10972 2 10973 824 64285 2 1497 1460 64287 2"
  , "1522 1463 64298 2 1513 1473 64299 2 1513 1474 64300 3 1513 1468 1473 64301 3 1513 1468"
  , "1474 64302 2 1488 1463 64303 2 1488 1464 64304 2 1488 1468 64305 2 1489 1468 64306 2"
  , "1490 1468 64307 2 1491 1468 64308 2 1492 1468 64309 2 1493 1468 64310 2 1494 1468 64312"
  , "2 1496 1468 64313 2 1497 1468 64314 2 1498 1468 64315 2 1499 1468 64316 2 1500 1468"
  , "64318 2 1502 1468 64320 2 1504 1468 64321 2 1505 1468 64323 2 1507 1468 64324 2 1508"
  , "1468 64326 2 1510 1468 64327 2 1511 1468 64328 2 1512 1468 64329 2 1513 1468 64330 2"
  , "1514 1468 64331 2 1493 1465 64332 2 1489 1471 64333 2 1499 1471 64334 2 1508 1471 119134"
  , "2 119127 119141 119135 2 119128 119141 119136 3 119128 119141 119150 119137 3 119128"
  , "119141 119151 119138 3 119128 119141 119152 119139 3 119128 119141 119153 119140 3"
  , "119128 119141 119154 119227 2 119225 119141 119228 2 119226 119141 119229 3 119225"
  , "119141 119150 119230 3 119226 119141 119150 119231 3 119225 119141 119151 119232 3"
  , "119226 119141 119151" ]

/-
  Runs of marks of one class: the first, their number, and the class.
-/
def classNumbers : List String :=
  [ "768 21 230 789 1 232 790 4 220 794 1 232 795 1 216 796 5 220 801 2 202 803 4 220 807 2"
  , "202 809 11 220 820 5 1 825 4 220 829 3 230 834 1 230 837 1 240 838 1 230 839 3 220 842 3"
  , "230 845 2 220 848 3 230 851 4 220 855 1 230 856 1 232 857 2 220 859 1 230 860 1 233 861"
  , "2 234 863 1 233 864 2 234 866 1 233 867 13 230 1155 5 230 1425 1 220 1426 4 230 1430 1"
  , "220 1431 3 230 1434 1 222 1435 1 220 1436 6 230 1442 6 220 1448 2 230 1450 1 220 1451 2"
  , "230 1453 1 222 1454 1 228 1455 1 230 1456 1 10 1457 1 11 1458 1 12 1459 1 13 1460 1 14"
  , "1461 1 15 1462 1 16 1463 1 17 1464 1 18 1465 2 19 1467 1 20 1468 1 21 1469 1 22 1471 1"
  , "23 1473 1 24 1474 1 25 1476 1 230 1477 1 220 1479 1 18 1552 8 230 1560 1 30 1561 1 31"
  , "1562 1 32 1611 1 27 1612 1 28 1613 1 29 1614 1 30 1615 1 31 1616 1 32 1617 1 33 1618 1"
  , "34 1619 2 230 1621 2 220 1623 5 230 1628 1 220 1629 2 230 1631 1 220 1648 1 35 1750 7"
  , "230 1759 4 230 1763 1 220 1764 1 230 1767 2 230 1770 1 220 1771 2 230 1773 1 220 1809 1"
  , "36 1840 1 230 1841 1 220 1842 2 230 1844 1 220 1845 2 230 1847 3 220 1850 1 230 1851 2"
  , "220 1853 1 230 1854 1 220 1855 3 230 1858 1 220 1859 1 230 1860 1 220 1861 1 230 1862 1"
  , "220 1863 1 230 1864 1 220 1865 2 230 2027 7 230 2034 1 220 2035 1 230 2045 1 220 2070 4"
  , "230 2075 9 230 2085 3 230 2089 5 230 2137 3 220 2199 2 230 2201 3 220 2204 4 230 2250 5"
  , "230 2255 5 220 2260 14 230 2275 1 220 2276 2 230 2278 1 220 2279 2 230 2281 1 220 2282 3"
  , "230 2285 3 220 2288 1 27 2289 1 28 2290 1 29 2291 3 230 2294 1 220 2295 2 230 2297 2 220"
  , "2299 5 230 2364 1 7 2381 1 9 2385 1 230 2386 1 220 2387 2 230 2492 1 7 2509 1 9 2558 1"
  , "230 2620 1 7 2637 1 9 2748 1 7 2765 1 9 2876 1 7 2893 1 9 3021 1 9 3132 1 7 3149 1 9"
  , "3157 1 84 3158 1 91 3260 1 7 3277 1 9 3387 2 9 3405 1 9 3530 1 9 3640 2 103 3642 1 9"
  , "3656 4 107 3768 2 118 3770 1 9 3784 4 122 3864 2 220 3893 1 220 3895 1 220 3897 1 216"
  , "3953 1 129 3954 1 130 3956 1 132 3962 4 130 3968 1 130 3970 2 230 3972 1 9 3974 2 230"
  , "4038 1 220 4151 1 7 4153 2 9 4237 1 220 4957 3 230 5908 2 9 5940 1 9 6098 1 9 6109 1 230"
  , "6313 1 228 6457 1 222 6458 1 230 6459 1 220 6679 1 230 6680 1 220 6752 1 9 6773 8 230"
  , "6783 1 220 6832 5 230 6837 6 220 6843 2 230 6845 1 220 6847 2 220 6849 2 230 6851 2 220"
  , "6853 5 230 6858 1 220 6859 18 230 6877 1 220 6880 6 230 6886 1 220 6887 4 230 6891 1 234"
  , "6964 1 7 6980 1 9 7019 1 230 7020 1 220 7021 7 230 7082 2 9 7142 1 7 7154 2 9 7223 1 7"
  , "7376 3 230 7380 1 1 7381 5 220 7386 2 230 7388 4 220 7392 1 230 7394 7 1 7405 1 220 7412"
  , "1 230 7416 2 230 7616 2 230 7618 1 220 7619 7 230 7626 1 220 7627 2 230 7629 1 234 7630"
  , "1 214 7631 1 220 7632 1 202 7633 37 230 7670 1 232 7671 2 228 7673 1 220 7674 1 218 7675"
  , "1 230 7676 1 233 7677 1 220 7678 1 230 7679 1 220 8400 2 230 8402 2 1 8404 4 230 8408 3"
  , "1 8411 2 230 8417 1 230 8421 2 1 8423 1 230 8424 1 220 8425 1 230 8426 2 1 8428 4 220"
  , "8432 1 230 11503 3 230 11647 1 9 11744 32 230 12330 1 218 12331 1 228 12332 1 232 12333"
  , "1 222 12334 2 224 12441 2 8 42607 1 230 42612 10 230 42654 2 230 42736 2 230 43014 1 9"
  , "43052 1 9 43204 1 9 43232 18 230 43307 3 220 43347 1 9 43443 1 7 43456 1 9 43696 1 230"
  , "43698 2 230 43700 1 220 43703 2 230 43710 2 230 43713 1 230 43766 1 9 44013 1 9 64286 1"
  , "26 65056 7 230 65063 7 220 65070 2 230 66045 1 220 66272 1 220 66422 5 230 68109 1 220"
  , "68111 1 230 68152 1 230 68153 1 1 68154 1 220 68159 1 9 68325 1 230 68326 1 220 68900 4"
  , "230 68969 5 230 69291 2 230 69370 2 220 69373 3 220 69446 2 220 69448 3 230 69451 1 220"
  , "69452 1 230 69453 4 220 69506 1 230 69507 1 220 69508 1 230 69509 1 220 69702 1 9 69744"
  , "1 9 69759 1 9 69817 1 9 69818 1 7 69888 3 230 69939 2 9 70003 1 7 70080 1 9 70090 1 7"
  , "70197 1 9 70198 1 7 70377 1 7 70378 1 9 70459 2 7 70477 1 9 70502 7 230 70512 5 230"
  , "70606 3 9 70722 1 9 70726 1 7 70750 1 230 70850 1 9 70851 1 7 71103 1 9 71104 1 7 71231"
  , "1 9 71350 1 9 71351 1 7 71467 1 9 71737 1 9 71738 1 7 71997 2 9 72003 1 7 72160 1 9"
  , "72244 1 9 72263 1 9 72345 1 9 72767 1 9 73026 1 7 73028 2 9 73111 1 9 73537 2 9 90415 1"
  , "9 92912 5 1 92976 7 230 94192 2 6 113822 1 1 119141 2 216 119143 3 1 119149 1 226 119150"
  , "5 216 119163 8 220 119173 5 230 119178 2 220 119210 4 230 119362 3 230 122880 7 230"
  , "122888 17 230 122907 7 230 122915 2 230 122918 5 230 123023 1 230 123184 7 230 123566 1"
  , "230 123628 4 230 124140 2 232 124142 1 220 124143 1 230 124398 1 230 124399 1 220 124643"
  , "1 230 124646 1 230 124654 2 230 124661 1 230 125136 7 220 125252 6 230 125258 1 7" ]

end Normal

end Text

end Devirt
