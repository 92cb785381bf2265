import Devirt.Text.Property.Basic

/-
  The scripts to which characters belong.

  A character belongs to one script, and may be used in more.

  Key definitions include:
    * `Text.scriptTable`
    * `Text.scriptUseTable`
-/

namespace Devirt

namespace Text

def scriptTable : List Entry :=
  [ ⟨["Adlam", "Adlm"], ["125184 76 4 10 4 2"]⟩
  , ⟨["Ahom", "Ahom"], ["71424 27 2 15 4 23"]⟩
  , ⟨["Anatolian_Hieroglyphs", "Hluw"], ["82944 583"]⟩
  , ⟨["Arabic", "Arab"]
    , [ "1536 5 1 6 1 14 1 3 1 32 1 10 11 26 1 108 1 34 80 48 240 34 5 75 1 29 62032 494 2 144"
      , "32 16 112 5 1 135 3939 31 67 6 8 9 33 6 57088 4 1 27 1 2 1 1 2 1 1 10 1 4 1 1 1 1 6 1"
      , "4 1 1 1 1 1 1 3 1 2 1 1 2 1 1 1 1 1 1 1 1 1 1 2 1 1 2 4 1 7 1 4 1 4 1 1 1 10 1 17 5 3"
      , "1 5 1 17 52 2" ]⟩
  , ⟨["Armenian", "Armn"], ["1329 38 2 50 2 3 62851 5"]⟩
  , ⟨["Avestan", "Avst"], ["68352 54 3 7"]⟩
  , ⟨["Balinese", "Bali"], ["6912 77 1 50"]⟩
  , ⟨["Bamum", "Bamu"], ["42656 88 49416 569"]⟩
  , ⟨["Bassa_Vah", "Bass"], ["92880 30 2 6"]⟩
  , ⟨["Batak", "Batk"], ["7104 52 8 4"]⟩
  , ⟨["Bengali", "Beng"], ["2432 4 1 8 2 2 2 22 1 7 1 1 3 4 2 9 2 2 2 4 8 1 4 2 1 5 2 25"]⟩
  , ⟨["Bhaiksuki", "Bhks"], ["72704 9 1 45 1 14 10 29"]⟩
  , ⟨["Bopomofo", "Bopo"], ["746 2 11801 43 112 32"]⟩
  , ⟨["Brahmi", "Brah"], ["69632 78 4 36 9 1"]⟩
  , ⟨["Braille", "Brai"], ["10240 256"]⟩
  , ⟨["Buginese", "Bugi"], ["6656 28 2 2"]⟩
  , ⟨["Buhid", "Buhd"], ["5952 20"]⟩
  , ⟨["Canadian_Aboriginal", "Cans"], ["5120 640 560 70 65978 16"]⟩
  , ⟨["Carian", "Cari"], ["66208 49"]⟩
  , ⟨["Caucasian_Albanian", "Aghb"], ["66864 52 11 1"]⟩
  , ⟨["Chakma", "Cakm"], ["69888 53 1 18"]⟩
  , ⟨["Cham", "Cham"], ["43520 55 9 14 2 10 2 4"]⟩
  , ⟨["Chorasmian", "Chrs"], ["69552 28"]⟩
  , ⟨["Cherokee", "Cher"], ["5024 86 2 6 38770 80"]⟩
  , ⟨["Common", "Zyyy"]
    , [ "0 65 26 6 26 47 1 15 1 5 23 1 31 1 449 39 5 5 2 20 116 1 9 1 6 1 1 1 637 1 6 1 14 1 3"
      , "1 32 1 156 1 516 1 129 2 1241 1 405 4 290 1 1519 3 71 2 203 2 1 1 1229 1 13 1 7 4 1 6"
      , "1 3 2 1 773 12 2 87 1 11 3 11 1 15 17 34 62 38 1 3 2 6 1 27 1 17 41 3 4 666 22 11 21"
      , "928 256 628 2 138 512 94 402 21 1 1 1 25 15 8 4 4 91 2 3 1 90 2 147 16 32 38 9 1 48 64"
      , "31 81 47 1 88 168 6592 64 22784 34 102 3 165 10 244 1 160 1 395 1 14 2 20946 2 208 10"
      , "22 35 1 19 1 4 147 1 1 32 26 6 26 11 10 1 45 2 64 7 1 7 10 5 258 3 4 45 3 9 80 13 51"
      , "45 228 27 47524 4 3932 253 3 436 6 23 15 17 95 116 60 246 10 39 2 62 3 17 8 2 7 30 4"
      , "61 213 20 12 20 12 87 9 25 135 85 1 71 1 2 2 1 2 2 2 4 1 12 1 1 1 7 1 65 1 4 2 8 1 7 1"
      , "28 1 4 1 5 1 1 3 7 1 340 2 292 2 50 5233 68 76 61 706 44 4 100 12 15 2 15 1 15 1 37 10"
      , "174 56 26 1 2 13 44 4 9 7 2 14 6 154 985 3 17 3 13 3 218 6 12 4 1 15 12 4 56 8 10 6 40"
      , "8 30 2 12 4 2 14 9 39 344 8 14 2 13 3 11 3 57 1 1 4 16 2 12 4 10 7 147 1 103 787462 1"
      , "30 96" ]⟩
  , ⟨["Coptic", "Copt", "Qaac"], ["994 14 10384 116 5 7"]⟩
  , ⟨["Cuneiform", "Xsux"], ["73728 922 102 111 1 5 11 196"]⟩
  , ⟨["Cypriot", "Cprt"], ["67584 6 2 1 1 44 1 2 3 1 2 1"]⟩
  , ⟨["Cypro_Minoan", "Cpmn"], ["77712 99"]⟩
  , ⟨["Cyrillic", "Cyrl"]
    , [ "1024 133 2 169 5968 11 160 1 76 1 4199 32 30784 96 22414 2 57856 62 33 1" ]⟩
  , ⟨["Deseret", "Dsrt"], ["66560 80"]⟩
  , ⟨["Devanagari", "Deva"], ["2304 81 4 15 2 26 40800 32 29184 10"]⟩
  , ⟨["Dives_Akuru", "Diak"], ["71936 7 2 1 2 8 1 2 1 30 1 2 2 12 9 10"]⟩
  , ⟨["Dogra", "Dogr"], ["71680 60"]⟩
  , ⟨["Duployan", "Dupl"], ["113664 107 5 13 3 9 7 10 2 4"]⟩
  , ⟨["Egyptian_Hieroglyphs", "Egyp"], ["77824 1110 10 3995"]⟩
  , ⟨["Elbasan", "Elba"], ["66816 40"]⟩
  , ⟨["Elymaic", "Elym"], ["69600 23"]⟩
  , ⟨["Ethiopic", "Ethi"]
    , [ "4608 73 1 4 2 7 1 1 1 4 2 41 1 4 2 33 1 4 2 7 1 1 1 4 2 15 1 57 1 4 2 67 2 32 3 26"
      , "6630 23 9 7 1 7 1 7 1 7 1 7 1 7 1 7 1 7 32034 6 2 6 2 6 9 7 1 7 81073 7 1 4 1 2 1 15" ]⟩
  , ⟨["Garay", "Gara"], ["68928 38 3 29 8 2"]⟩
  , ⟨["Georgian", "Geor"], ["4256 38 1 1 5 1 2 43 1 4 2960 43 2 3 4160 38 1 1 5 1"]⟩
  , ⟨["Glagolitic", "Glag"], ["11264 96 111520 7 1 17 2 7 1 2 1 5"]⟩
  , ⟨["Gothic", "Goth"], ["66352 27"]⟩
  , ⟨["Grantha", "Gran"], ["70400 4 1 8 2 2 2 22 1 7 1 2 1 5 2 9 2 2 2 3 2 1 6 1 5 7 2 7 3 5"]⟩
  , ⟨["Greek", "Grek"]
    , [ "880 4 1 3 2 4 1 1 4 1 1 1 1 3 1 1 1 20 1 63 14 16 6438 5 50 5 4 5 84 1 320 22 2 6 2 38"
      , "2 6 2 8 1 1 1 1 1 1 1 31 2 53 1 15 1 14 2 6 1 19 2 3 1 9 295 1 35390 1 21978 79 17 1"
      , "53343 70" ]⟩
  , ⟨["Gujarati", "Gujr"], ["2689 3 1 9 1 3 1 22 1 7 1 2 1 5 2 10 1 3 1 3 2 1 15 4 2 12 7 7"]⟩
  , ⟨["Gunjala_Gondi", "Gong"], ["73056 6 1 2 1 37 1 2 1 6 7 10"]⟩
  , ⟨["Gurmukhi", "Guru"]
    , [ "2561 3 1 6 4 2 2 22 1 7 1 2 1 2 1 2 2 1 1 5 4 2 2 3 3 1 7 4 1 1 7 17" ]⟩
  , ⟨["Gurung_Khema", "Gukh"], ["90368 58"]⟩
  , ⟨["Han", "Hani"]
    , [ "11904 26 1 89 12 214 47 1 1 1 25 9 14 4 964 6592 64 20992 22784 366 2 106 29960 2 12 7"
      , "36873 42720 32 4382 2 5774 2 7473 15 622 2466 542 1506 4939 5 8490" ]⟩
  , ⟨["Hangul", "Hang"]
    , [ "4352 256 7726 2 257 94 113 31 65 31 30433 29 643 11172 12 23 4 49 10148 31 3 6 2 6 2 6"
      , "2 3" ]⟩
  , ⟨["Hanifi_Rohingya", "Rohg"], ["68864 40 8 10"]⟩
  , ⟨["Hanunoo", "Hano"], ["5920 21"]⟩
  , ⟨["Hatran", "Hatr"], ["67808 19 1 2 5 5"]⟩
  , ⟨["Hebrew", "Hebr"], ["1425 55 8 27 4 6 62760 26 1 5 1 1 1 2 1 2 1 10"]⟩
  , ⟨["Hiragana", "Hira"], ["12353 86 6 3 98145 287 18 1 29 3 16557 1"]⟩
  , ⟨["Imperial_Aramaic", "Armi"], ["67648 22 1 9"]⟩
  , ⟨["Inherited", "Zinh", "Qaai"]
    , [ "768 112 277 2 452 11 26 1 736 4 4443 46 2 12 484 3 1 13 1 7 4 1 6 1 3 2 198 64 524 2"
      , "194 33 3897 4 107 2 52581 16 16 14 975 1 226 1 4186 1 48068 46 2 23 544 3 17 8 2 7 30"
      , "4 798546 240" ]⟩
  , ⟨["Inscriptional_Pahlavi", "Phli"], ["68448 19 5 8"]⟩
  , ⟨["Inscriptional_Parthian", "Prti"], ["68416 22 2 8"]⟩
  , ⟨["Javanese", "Java"], ["43392 78 2 10 4 2"]⟩
  , ⟨["Kaithi", "Kthi"], ["69760 67 10 1"]⟩
  , ⟨["Kannada", "Knda"], ["3200 13 1 3 1 23 1 10 1 5 2 9 1 3 1 4 7 2 5 3 1 4 2 10 1 3"]⟩
  , ⟨["Katakana", "Kana"]
    , [ "12449 90 2 3 240 16 208 47 1 88 52238 10 1 45 45138 4 1 7 1 2 1 1 287 3 50 1 14 4" ]⟩
  , ⟨["Kawi", "Kawi"], ["73472 17 1 41 3 29"]⟩
  , ⟨["Kayah_Li", "Kali"], ["43264 46 1 1"]⟩
  , ⟨["Kharoshthi", "Khar"], ["68096 4 1 2 5 8 1 3 1 29 2 3 4 10 7 9"]⟩
  , ⟨["Khitan_Small_Script", "Kits"], ["94180 1 6939 470 41 1"]⟩
  , ⟨["Khmer", "Khmr"], ["6016 94 2 10 6 10 486 32"]⟩
  , ⟨["Khojki", "Khoj"], ["70144 18 1 47"]⟩
  , ⟨["Khudawadi", "Sind"], ["70320 59 5 10"]⟩
  , ⟨["Kirat_Rai", "Krai"], ["93504 58"]⟩
  , ⟨["Lao", "Laoo"], ["3713 2 1 1 1 5 1 24 1 1 1 23 2 5 1 1 1 7 1 10 2 4"]⟩
  , ⟨["Latin", "Latn"]
    , [ "65 26 6 26 47 1 15 1 5 23 1 31 1 449 39 5 6683 38 6 49 5 4 5 13 1 70 65 256 369 1 13 1"
      , "16 13 141 2 6 1 27 1 17 41 2775 32 31394 102 3 82 20 15 816 43 1 9 1 4 20374 7 1050 26"
      , "6 26 2085 6 1 42 1 9 55109 31 6 6" ]⟩
  , ⟨["Lepcha", "Lepc"], ["7168 56 3 15 3 3"]⟩
  , ⟨["Limbu", "Limb"], ["6400 31 1 12 4 12 4 1 3 12"]⟩
  , ⟨["Linear_A", "Lina"], ["67072 311 9 22 10 8"]⟩
  , ⟨["Linear_B", "Linb"], ["65536 12 1 26 1 19 1 2 1 15 2 14 34 123"]⟩
  , ⟨["Lisu", "Lisu"], ["42192 48 31408 1"]⟩
  , ⟨["Lycian", "Lyci"], ["66176 29"]⟩
  , ⟨["Lydian", "Lydi"], ["67872 26 5 1"]⟩
  , ⟨["Mahajani", "Mahj"], ["69968 39"]⟩
  , ⟨["Makasar", "Maka"], ["73440 25"]⟩
  , ⟨["Malayalam", "Mlym"], ["3328 13 1 3 1 51 1 3 1 6 4 16 2 26"]⟩
  , ⟨["Mandaic", "Mand"], ["2112 28 2 1"]⟩
  , ⟨["Manichaean", "Mani"], ["68288 39 4 12"]⟩
  , ⟨["Marchen", "Marc"], ["72816 32 2 22 1 14"]⟩
  , ⟨["Medefaidrin", "Medf"], ["93760 91"]⟩
  , ⟨["Masaram_Gondi", "Gonm"], ["72960 7 1 2 1 44 3 1 1 2 1 9 8 10"]⟩
  , ⟨["Meetei_Mayek", "Mtei"], ["43744 23 201 46 2 10"]⟩
  , ⟨["Mende_Kikakui", "Mend"], ["124928 197 2 16"]⟩
  , ⟨["Meroitic_Cursive", "Merc"], ["68000 24 4 20 2 46"]⟩
  , ⟨["Meroitic_Hieroglyphs", "Mero"], ["67968 32"]⟩
  , ⟨["Miao", "Plrd"], ["93952 75 4 57 7 17"]⟩
  , ⟨["Modi", "Modi"], ["71168 69 11 10"]⟩
  , ⟨["Mongolian", "Mong"], ["6144 2 2 1 1 20 6 89 7 43 64949 13"]⟩
  , ⟨["Mro", "Mroo"], ["92736 31 1 10 4 2"]⟩
  , ⟨["Multani", "Mult"], ["70272 7 1 1 1 4 1 15 1 11"]⟩
  , ⟨["Myanmar", "Mymr"], ["4096 160 39232 31 97 32 27728 20"]⟩
  , ⟨["Nabataean", "Nbat"], ["67712 31 8 9"]⟩
  , ⟨["Nag_Mundari", "Nagm"], ["124112 42"]⟩
  , ⟨["Nandinagari", "Nand"], ["72096 8 2 46 2 11"]⟩
  , ⟨["New_Tai_Lue", "Talu"], ["6528 44 4 26 6 11 3 2"]⟩
  , ⟨["Newa", "Newa"], ["70656 92 1 5"]⟩
  , ⟨["Nko", "Nkoo"], ["1984 59 2 3"]⟩
  , ⟨["Nushu", "Nshu"], ["94177 1 16782 396"]⟩
  , ⟨["Nyiakeng_Puachue_Hmong", "Hmnp"], ["123136 45 3 14 2 10 4 2"]⟩
  , ⟨["Ogham", "Ogam"], ["5760 29"]⟩
  , ⟨["Ol_Chiki", "Olck"], ["7248 48"]⟩
  , ⟨["Ol_Onal", "Onao"], ["124368 43 4 1"]⟩
  , ⟨["Old_Hungarian", "Hung"], ["68736 51 13 51 7 6"]⟩
  , ⟨["Old_Italic", "Ital"], ["66304 36 9 3"]⟩
  , ⟨["Old_North_Arabian", "Narb"], ["68224 32"]⟩
  , ⟨["Old_Permic", "Perm"], ["66384 43"]⟩
  , ⟨["Old_Persian", "Xpeo"], ["66464 36 4 14"]⟩
  , ⟨["Old_Sogdian", "Sogo"], ["69376 40"]⟩
  , ⟨["Old_South_Arabian", "Sarb"], ["68192 32"]⟩
  , ⟨["Old_Turkic", "Orkh"], ["68608 73"]⟩
  , ⟨["Old_Uyghur", "Ougr"], ["69488 26"]⟩
  , ⟨["Oriya", "Orya"], ["2817 3 1 8 2 2 2 22 1 7 1 2 1 5 2 9 2 2 2 3 7 3 4 2 1 5 2 18"]⟩
  , ⟨["Osage", "Osge"], ["66736 36 4 36"]⟩
  , ⟨["Osmanya", "Osma"], ["66688 30 2 10"]⟩
  , ⟨["Pahawh_Hmong", "Hmng"], ["92928 70 10 10 1 7 1 21 5 19"]⟩
  , ⟨["Palmyrene", "Palm"], ["67680 32"]⟩
  , ⟨["Pau_Cin_Hau", "Pauc"], ["72384 57"]⟩
  , ⟨["Phags_Pa", "Phag"], ["43072 56"]⟩
  , ⟨["Phoenician", "Phnx"], ["67840 28 3 1"]⟩
  , ⟨["Psalter_Pahlavi", "Phlp"], ["68480 18 7 4 12 7"]⟩
  , ⟨["Rejang", "Rjng"], ["43312 36 11 1"]⟩
  , ⟨["Runic", "Runr"], ["5792 75 3 11"]⟩
  , ⟨["Samaritan", "Samr"], ["2048 46 2 15"]⟩
  , ⟨["Saurashtra", "Saur"], ["43136 70 8 12"]⟩
  , ⟨["Sharada", "Shrd"], ["70016 96 2432 8"]⟩
  , ⟨["Shavian", "Shaw"], ["66640 48"]⟩
  , ⟨["Siddham", "Sidd"], ["71040 54 2 38"]⟩
  , ⟨["SignWriting", "Sgnw"], ["120832 652 15 5 1 15"]⟩
  , ⟨["Sinhala", "Sinh"], ["3457 3 1 18 3 24 1 9 1 1 2 7 3 1 4 6 1 1 1 8 6 10 2 3 66540 20"]⟩
  , ⟨["Sogdian", "Sogd"], ["69424 42"]⟩
  , ⟨["Sora_Sompeng", "Sora"], ["69840 25 7 10"]⟩
  , ⟨["Soyombo", "Soyo"], ["72272 83"]⟩
  , ⟨["Sundanese", "Sund"], ["7040 64 256 8"]⟩
  , ⟨["Sunuwar", "Sunu"], ["72640 34 14 10"]⟩
  , ⟨["Syloti_Nagri", "Sylo"], ["43008 45"]⟩
  , ⟨["Syriac", "Syrc"], ["1792 14 1 60 2 3 272 11"]⟩
  , ⟨["Tagalog", "Tglg"], ["5888 22 9 1"]⟩
  , ⟨["Tagbanwa", "Tagb"], ["5984 13 1 3 1 2"]⟩
  , ⟨["Tai_Le", "Tale"], ["6480 30 2 5"]⟩
  , ⟨["Tai_Tham", "Lana"], ["6688 63 1 29 2 11 6 10 6 14"]⟩
  , ⟨["Tai_Viet", "Tavt"], ["43648 67 24 5"]⟩
  , ⟨["Takri", "Takr"], ["71296 58 6 10"]⟩
  , ⟨["Tamil", "Taml"]
    , [ "2946 2 1 6 3 3 1 4 3 2 1 1 1 2 3 2 3 3 3 12 4 5 3 3 1 4 2 1 6 1 14 21 70597 50 13 1" ]⟩
  , ⟨["Tangsa", "Tnsa"], ["92784 79 1 10"]⟩
  , ⟨["Tangut", "Tang"], ["94176 1 31 6912 512 31 97 115"]⟩
  , ⟨["Telugu", "Telu"], ["3072 13 1 3 1 23 1 16 2 9 1 3 1 4 7 2 1 3 1 2 2 4 2 10 7 9"]⟩
  , ⟨["Thaana", "Thaa"], ["1920 50"]⟩
  , ⟨["Thai", "Thai"], ["3585 58 5 28"]⟩
  , ⟨["Tibetan", "Tibt"], ["3840 72 1 36 4 39 1 36 1 15 1 7 4 2"]⟩
  , ⟨["Tifinagh", "Tfng"], ["11568 56 7 2 14 1"]⟩
  , ⟨["Tirhuta", "Tirh"], ["70784 72 8 10"]⟩
  , ⟨["Todhri", "Todr"], ["67008 52"]⟩
  , ⟨["Toto", "Toto"], ["123536 31"]⟩
  , ⟨["Tulu_Tigalari", "Tutg"], ["70528 10 1 1 2 1 1 38 1 10 1 1 2 1 1 4 1 10 1 2 8 2"]⟩
  , ⟨["Ugaritic", "Ugar"], ["66432 30 1 1"]⟩
  , ⟨["Vai", "Vaii"], ["42240 300"]⟩
  , ⟨["Vithkuqi", "Vith"], ["66928 11 1 15 1 7 1 2 1 11 1 15 1 7 1 2"]⟩
  , ⟨["Wancho", "Wcho"], ["123584 58 5 1"]⟩
  , ⟨["Warang_Citi", "Wara"], ["71840 83 12 1"]⟩
  , ⟨["Yezidi", "Yezi"], ["69248 42 1 3 2 2"]⟩
  , ⟨["Yi", "Yiii"], ["40960 1165 3 55"]⟩
  , ⟨["Zanabazar_Square", "Zanb"], ["72192 72"]⟩ ]

/-
  The characters that are in a script but are not of it, or the other way round.
-/
def scriptUseTable : List Entry :=
  [ ⟨["Adlam"], ["1567 1 32 1 6670 1 3569 1"]⟩
  , ⟨["Arabic"], ["1548 1 14 1 3 1 32 1 10 11 26 1 6622 1 3569 1 52988 2 1440 28"]⟩
  , ⟨["Armenian"], ["776 1"]⟩
  , ⟨["Avestan"], ["183 1 11640 2"]⟩
  , ⟨["Bengali"], ["700 1 1684 2 17 2 4970 1 1 1 2 2 1 1 8 1 8 1 2 1 4 1 2 3 35833 1"]⟩
  , ⟨["Bopomofo"], ["711 1 1 3 13 1 11559 3 4 10 1 13 10 4 2 1 6 1 195 1 52553 2 282 5"]⟩
  , ⟨["Buginese"], ["43471 1"]⟩
  , ⟨["Buhid"], ["5941 2"]⟩
  , ⟨["Carian"], ["183 1 8098 1 2 1 3539 1"]⟩
  , ⟨["Caucasian_Albanian"], ["772 1 44 1 44 1"]⟩
  , ⟨["Chakma"], ["2534 10 1616 10"]⟩
  , ⟨["Cherokee"], ["768 3 1 1 6 2 22 2 11 2"]⟩
  , ⟨["Common"]
    , [ "183 1 516 1 10 1 1 3 1 1 9 1 1 1 154 1 663 1 14 1 3 1 32 1 803 2 1941 1 1519 3 71 2"
      , "203 2 1 1 1229 1 13 1 7 4 1 6 1 3 2 1 820 1 31 1 10 1 2 1 3513 1 24 2 10 1 4 1 1 1 428"
      , "16 1 3 2 1 1 10 1 13 16 6 1 1 4 4 91 2 3 1 90 2 147 16 32 38 9 1 48 40 56 49 15 12 51"
      , "1 88 25 10 5 96 31 29441 8 296 10 244 1 160 1 21358 2 261 2 282 5 10 1 45 2 352 3 4 45"
      , "3 9 417 27 47524 4 5820 18 7902 2" ]⟩
  , ⟨["Coptic"], ["183 1 584 1 3 2 1 1 108 2 10913 1 54472 28"]⟩
  , ⟨["Cypriot"], ["65792 3 4 45 3 9"]⟩
  , ⟨["Cypro_Minoan"], ["65792 2"]⟩
  , ⟨["Cyrillic"], ["700 1 67 3 1 1 1 1 1 1 2 1 5 1 371 2 6513 1 4170 1"]⟩
  , ⟨["Devanagari"], ["700 1 1684 2 17 2 4970 39 1 2 1014 1 34623 10"]⟩
  , ⟨["Dogra"], ["2404 12 40640 10"]⟩
  , ⟨["Duployan"], ["183 1 591 2 1 1 24 2 11031 1 101987 4"]⟩
  , ⟨["Elbasan"], ["183 1 589 1"]⟩
  , ⟨["Ethiopic"], ["782 1"]⟩
  , ⟨["Garay"], ["1548 1 14 1 3 1"]⟩
  , ⟨["Georgian"], ["183 1 1233 1 2929 1 3934 1 3542 1"]⟩
  , ⟨["Glagolitic"], ["183 1 587 1 1 1 382 1 2 1 257 1 2929 1 3934 1 3560 1 30763 1"]⟩
  , ⟨["Gothic"], ["183 1 588 2 2 1 40 1"]⟩
  , ⟨["Grantha"], ["2385 2 17 2 640 14 4316 1 1 2 30 3 3 2 1014 1 62026 1 3220 2 1 1"]⟩
  , ⟨["Greek"], ["183 1 584 2 2 1 1 1 1 1 10 1 46 1 2 1 46 1 6731 2 667 1"]⟩
  , ⟨["Gujarati"], ["2385 2 17 2 40650 10"]⟩
  , ⟨["Gunjala_Gondi"], ["183 1 2220 2"]⟩
  , ⟨["Gurmukhi"], ["2385 2 17 2 40650 10"]⟩
  , ⟨["Gurung_Khema"], ["2405 1"]⟩
  , ⟨["Han"]
    , [ "183 1 12088 16 1 3 2 1 1 10 1 13 10 4 2 1 6 1 4 4 187 1 148 16 32 38 9 1 48 40 56 49"
      , "15 12 51 1 88 25 10 5 96 31 29441 8 22333 2 282 5 54266 18 7902 2" ]⟩
  , ⟨["Hangul"], ["12289 3 4 10 1 13 16 1 6 1 195 1 52553 2 282 5"]⟩
  , ⟨["Hanifi_Rohingya"], ["1548 1 14 1 3 1 32 1 147 1"]⟩
  , ⟨["Hanunoo"], ["5941 2"]⟩
  , ⟨["Hebrew"], ["775 2"]⟩
  , ⟨["Hiragana"], ["12289 3 4 10 1 13 16 6 1 1 4 2 91 4 3 1 90 2 52552 2 282 5 10 1 45 2"]⟩
  , ⟨["Inherited"]
    , [ "768 15 1 2 1 1 15 3 7 2 1 2 16 1 2 1 18 1 5 1 4 13 277 2 452 11 26 1 736 2 4989 3 1 13"
      , "1 7 4 1 6 1 3 2 198 2 54 1 1 1 757 1 3897 4 107 2 53829 1 4186 1" ]⟩
  , ⟨["Javanese"], ["43471 1"]⟩
  , ⟨["Kaithi"], ["2406 10 9409 1 31230 10"]⟩
  , ⟨["Kannada"], ["2385 2 17 2 4970 1 1 2 6 1 23 1 1 1 35643 6"]⟩
  , ⟨["Katakana"]
    , [ "773 1 29 1 11485 3 4 10 1 13 16 6 1 1 4 2 91 4 3 1 90 2 52552 2 282 5 10 1 45 2" ]⟩
  , ⟨["Kayah_Li"], ["43310 1"]⟩
  , ⟨["Khojki"], ["2790 10 40256 10"]⟩
  , ⟨["Khudawadi"], ["2404 2 40650 10"]⟩
  , ⟨["Latin"]
    , [ "183 1 516 1 10 1 1 3 1 1 9 1 1 1 38 15 1 2 1 1 15 3 7 2 1 2 38 1 5 1 4 13 277 2 1226 2"
      , "1960 1 3324 1 566 1 192 1 3366 1 30952 8 550 1" ]⟩
  , ⟨["Limbu"], ["2405 1"]⟩
  , ⟨["Linear_A"], ["65799 45"]⟩
  , ⟨["Linear_B"], ["65792 3 4 45 3 9"]⟩
  , ⟨["Lisu"], ["700 1 16 1 11580 2"]⟩
  , ⟨["Lycian"], ["8282 1"]⟩
  , ⟨["Lydian"], ["183 1 11641 1"]⟩
  , ⟨["Mahajani"], ["183 1 2220 12 40640 10"]⟩
  , ⟨["Malayalam"], ["2385 2 17 2 4980 1 23 1 35645 3"]⟩
  , ⟨["Mandaic"], ["1600 1"]⟩
  , ⟨["Manichaean"], ["1600 1"]⟩
  , ⟨["Masaram_Gondi"], ["2404 2"]⟩
  , ⟨["Meroitic_Hieroglyphs"], ["8285 1"]⟩
  , ⟨["Modi"], ["43056 10"]⟩
  , ⟨["Mongolian"], ["6146 2 1 1 2089 1 4049 2 5 4"]⟩
  , ⟨["Multani"], ["2662 10"]⟩
  , ⟨["Myanmar"], ["43310 1"]⟩
  , ⟨["Nandinagari"], ["2385 1 18 2 896 10 4089 1 8 1 7 1 35637 6"]⟩
  , ⟨["Newa"], ["2385 2 4994 1 1 2 9 1 6 1 1 1 1 1"]⟩
  , ⟨["Nko"], ["1548 1 14 1 3 1 63262 2"]⟩
  , ⟨["Ol_Onal"], ["2404 2"]⟩
  , ⟨["Old_Hungarian"], ["8282 1 2 1 3539 1 15 1"]⟩
  , ⟨["Old_Permic"], ["183 1 584 1 5 3 10 1 367 1"]⟩
  , ⟨["Old_Turkic"], ["8282 1 3541 1"]⟩
  , ⟨["Old_Uyghur"], ["1600 1 66737 1"]⟩
  , ⟨["Oriya"], ["2385 2 17 2 4980 1 23 1"]⟩
  , ⟨["Osage"], ["769 1 2 1 6 1 76 1"]⟩
  , ⟨["Phags_Pa"], ["6146 2 1 1 2089 1 4050 1"]⟩
  , ⟨["Psalter_Pahlavi"], ["1600 1"]⟩
  , ⟨["Runic"], ["5867 3"]⟩
  , ⟨["Samaritan"], ["11825 1"]⟩
  , ⟨["Sharada"], ["2385 1 4997 1 1 1 2 2 2 1 9 1 2 1 35650 6 2 1"]⟩
  , ⟨["Shavian"], ["183 1"]⟩
  , ⟨["Sinhala"], ["2404 2 5004 1"]⟩
  , ⟨["Sogdian"], ["1600 1"]⟩
  , ⟨["Sunuwar"], ["768 2 1 1 9 1 2 1 28 1 3 1"]⟩
  , ⟨["Syloti_Nagri"], ["2404 2 128 10"]⟩
  , ⟨["Syriac"], ["771 2 2 2 1 1 24 3 7 2 1 2 730 1 14 2 2 1 32 1 10 11 26 1 6023 1 1 1"]⟩
  , ⟨["Tagalog"], ["5941 2"]⟩
  , ⟨["Tagbanwa"], ["5941 2"]⟩
  , ⟨["Tai_Le"], ["768 2 5 2 3 1 3379 10"]⟩
  , ⟨["Takri"], ["2404 2 40650 10"]⟩
  , ⟨["Tamil"], ["2385 2 17 2 4980 1 35864 1 27149 1 1 1 55 2"]⟩
  , ⟨["Tangut"], ["12272 16 495 1"]⟩
  , ⟨["Telugu"], ["2385 2 17 2 4975 2 1 1 1 1 23 1"]⟩
  , ⟨["Thaana"], ["1548 1 14 2 2 1 64 10 63368 1 10 1"]⟩
  , ⟨["Thai"], ["700 1 26 1 43 1 45 1"]⟩
  , ⟨["Tibetan"], ["12296 4"]⟩
  , ⟨["Tifinagh"], ["770 1 1 1 1 4 25 1"]⟩
  , ⟨["Tirhuta"], ["2385 2 17 2 4975 1 12 1 15 1 35645 10"]⟩
  , ⟨["Todhri"], ["769 1 2 1 2 1 9 1 1 1 74 1"]⟩
  , ⟨["Toto"], ["700 1"]⟩
  , ⟨["Tulu_Tigalari"], ["3302 10 4098 1 1 1 35643 6 187 1"]⟩
  , ⟨["Yezidi"], ["1548 1 14 1 3 1 64 10"]⟩
  , ⟨["Yi"], ["12289 2 5 10 2 8 223 1 52837 5"]⟩ ]

end Text

end Devirt
