import LineSieve.Unicode.Packed

/-!
# Scripts

The sets of characters with each explicit value of `Script`.
-/

namespace LineSieve
namespace Unicode

/-- The values of `Script`. -/
def scripts : List NamedSet := [
  ⟨["adlm", "adlam"],
    "1e900:4c 4:a 4:2"⟩,
  ⟨["ahom"],
    "11700:1b 2:f 4:17"⟩,
  ⟨["hluw", "anatolianhieroglyphs"],
    "14400:247"⟩,
  ⟨["arab", "arabic"],
    "600:5 1:6 1:e 1:3 1:20 1:a b:1a 1:6c 1:22 50:30 f0:1f 1:2 5:4b 1:1d f250:73 10:16b 2:50 2:36 7
     20:10 70:5 1:87 f63:1f 43:3 37:4 df00:4 1:1b 1:2 1 2 1:a 1:4 1 1 6 4 1 1 1:3 1:2 1 2 1 1 1 1
     1:2 1 2:4 1:7 1:4 1:4 1 1:a 1:11 5:3 1:5 1:11 34:2"⟩,
  ⟨["armn", "armenian"],
    "531:26 2:32 2:3 f583:5"⟩,
  ⟨["avst", "avestan"],
    "10b00:36 3:7"⟩,
  ⟨["bali", "balinese"],
    "1b00:4d 1:32"⟩,
  ⟨["bamu", "bamum"],
    "a6a0:58 c108:239"⟩,
  ⟨["bass", "bassavah"],
    "16ad0:1e 2:6"⟩,
  ⟨["batk", "batak"],
    "1bc0:34 8:4"⟩,
  ⟨["beng", "bengali"],
    "980:4 1:8 2:2 2:16 1:7 1 3:4 2:9 2:2 2:4 8 4:2 1:5 2:19"⟩,
  ⟨["bhks", "bhaiksuki"],
    "11c00:9 1:2d 1:e a:1d"⟩,
  ⟨["bopo", "bopomofo"],
    "2ea:2 2e19:2b 70:20"⟩,
  ⟨["brah", "brahmi"],
    "11000:4e 4:24 9"⟩,
  ⟨["brai", "braille"],
    "2800:100"⟩,
  ⟨["bugi", "buginese"],
    "1a00:1c 2:2"⟩,
  ⟨["buhd", "buhid"],
    "1740:14"⟩,
  ⟨["cans", "canadianaboriginal"],
    "1400:280 230:46 101ba:10"⟩,
  ⟨["cari", "carian"],
    "102a0:31"⟩,
  ⟨["aghb", "caucasianalbanian"],
    "10530:34 b"⟩,
  ⟨["cakm", "chakma"],
    "11100:35 1:12"⟩,
  ⟨["cham"],
    "aa00:37 9:e 2:a 2:4"⟩,
  ⟨["cher", "cherokee"],
    "13a0:56 2:6 9772:50"⟩,
  ⟨["chrs", "chorasmian"],
    "10fb0:1c"⟩,
  ⟨["zyyy", "common"],
    "0:41 1a:6 1a:2f 1:f 1:5 17 1f 1c1:27 5:5 2:14 74 9 6 1 27d 6 e 3 20 9c 204 81:2 4d9 195:4 122
     5ef:3 47:2 cb:2 1 4cd d 7:4 1:6 1:3 2 305:c 2:57 1:b 3:b 1:f 11:21 3f:26 1:3 2:6 1:1b 1:11
     29:3 4:29a 16:b 15:3a0 100:274 2:20 1:69 200:5e 192:15 1 1:19 f:8 4:4 5b:2 3 5a:2 93:10 20:26
     9 30:40 1f:51 2f 58:a8 19c0:40 5900:22 66:3 a5:a f4 a0 18b e:2 51d2:2 d0:a 16:23 1:13 1:4 93
     1:20 1a:6 1a:b a 2d:2 40:7 1:7 a:5 102:3 4:2d 3:9 50:d 33:2d e4:1b b9a4:4 f5c:fa 6:1b4 9c:74
     3c:f6 a:27 2:3e 3:11 8:2 7:1e 4:3d d5:14 c:14 c:57 9:19 87:55 1:47 1:2 2 2:2 2:4 1:c 1 1:7
     1:41 1:4 2:8 1:7 1:1c 1:4 1:5 1 3:7 1:154 2:124 2:32 1471:44 4c:3d 2c2:2c 4:64 c:f 2:f 1:f
     1:25 a:ae 38:1a 1:2 d:2c 4:9 7:2 e:6 9a:3d8 4:11 3:d 3:77 4:5f 6:c 4 f:c 4:38 8:a 6:28 8:1e
     2:c 4:2 3e:154 c:e 2:d 3:a 5:38 7:f 2:b 6:9 7:93 1:66 c0407 1e:60"⟩,
  ⟨["copt", "coptic", "qaac"],
    "3e2:e 2890:74 5:7"⟩,
  ⟨["xsux", "cuneiform"],
    "12000:39a 66:6f 1:5 b:c4"⟩,
  ⟨["cprt", "cypriot"],
    "10800:6 2 1:2c 1:2 3 2"⟩,
  ⟨["cpmn", "cyprominoan"],
    "12f90:63"⟩,
  ⟨["cyrl", "cyrillic"],
    "400:85 2:a9 1750:b a0 4c 1067:20 7840:60 578e:2 e200:3e 21"⟩,
  ⟨["dsrt", "deseret"],
    "10400:50"⟩,
  ⟨["deva", "devanagari"],
    "900:51 4:f 2:1a 9f60:20 7200:a"⟩,
  ⟨["diak", "divesakuru"],
    "11900:7 2 2:8 1:2 1:1e 1:2 2:c 9:a"⟩,
  ⟨["dogr", "dogra"],
    "11800:3c"⟩,
  ⟨["dupl", "duployan"],
    "1bc00:6b 5:d 3:9 7:a 2:4"⟩,
  ⟨["egyp", "egyptianhieroglyphs"],
    "13000:456 a:f9b"⟩,
  ⟨["elba", "elbasan"],
    "10500:28"⟩,
  ⟨["elym", "elymaic"],
    "10fe0:17"⟩,
  ⟨["ethi", "ethiopic"],
    "1200:49 1:4 2:7 1 1:4 2:29 1:4 2:21 1:4 2:7 1 1:4 2:f 1:39 1:4 2:43 2:20 3:1a 19e6:17 9:7 1:7
     1:7 1:7 1:7 1:7 1:7 1:7 7d22:6 2:6 2:6 9:7 1:7 13cb1:7 1:4 1:2 1:f"⟩,
  ⟨["gara", "garay"],
    "10d40:26 3:1d 8:2"⟩,
  ⟨["geor", "georgian"],
    "10a0:26 1 5 2:2b 1:4 b90:2b 2:3 1040:26 1 5"⟩,
  ⟨["glag", "glagolitic"],
    "2c00:60 1b3a0:7 1:11 2:7 1:2 1:5"⟩,
  ⟨["goth", "gothic"],
    "10330:1b"⟩,
  ⟨["gran", "grantha"],
    "11300:4 1:8 2:2 2:16 1:7 1:2 1:5 2:9 2:2 2:3 2 6 5:7 2:7 3:5"⟩,
  ⟨["grek", "greek"],
    "370:4 1:3 2:4 1 4 1 1:3 1 1:14 1:3f e:10 1926:5 32:5 4:5 54 140:16 2:6 2:26 2:6 2:8 1 1 1 1:1f
     2:35 1:f 1:e 2:6 1:13 2:3 1:9 127 8a3e 55da:4f 11 d05f:46"⟩,
  ⟨["gujr", "gujarati"],
    "a81:3 1:9 1:3 1:16 1:7 1:2 1:5 2:a 1:3 1:3 2 f:4 2:c 7:7"⟩,
  ⟨["gong", "gunjalagondi"],
    "11d60:6 1:2 1:25 1:2 1:6 7:a"⟩,
  ⟨["guru", "gurmukhi"],
    "a01:3 1:6 4:2 2:16 1:7 1:2 1:2 1:2 2 1:5 4:2 2:3 3 7:4 1 7:11"⟩,
  ⟨["gukh", "gurungkhema"],
    "16100:3a"⟩,
  ⟨["hani", "han"],
    "2e80:1a 1:59 c:d6 2f 1 19:9 e:4 3c4:19c0 40:5200 5900:16e 2:6a 7508:2 c:2 900e:a6e0 20:103a
     6:de 2:1682 e:1d31 f:26e 9a2:21e 5e2:134b 5:1060"⟩,
  ⟨["hang", "hangul"],
    "1100:100 1e2e:2 101:5e 71:1f 41:1f 76e1:1d 283:2ba4 c:17 4:31 27a4:1f 3:6 2:6 2:6 2:3"⟩,
  ⟨["rohg", "hanifirohingya"],
    "10d00:28 8:a"⟩,
  ⟨["hano", "hanunoo"],
    "1720:15"⟩,
  ⟨["hatr", "hatran"],
    "108e0:13 1:2 5:5"⟩,
  ⟨["hebr", "hebrew"],
    "591:37 8:1b 4:6 f528:1a 1:5 1 1:2 1:2 1:a"⟩,
  ⟨["hira", "hiragana"],
    "3041:56 6:3 17f61:11f 12 1d:3 40ad"⟩,
  ⟨["armi", "imperialaramaic"],
    "10840:16 1:9"⟩,
  ⟨["zinh", "inherited", "qaai"],
    "300:70 115:2 1c4:b 1a 2e0:4 115b:1f 201:3 1:d 1:7 4 6 3:2 c6:40 20c:2 c2:21 f39:4 6b:2 cd65:10
     10:e 3cf e2 105a bbc4:2e 2:17 220:3 11:8 2:7 1e:4 c2f52:f0"⟩,
  ⟨["phli", "inscriptionalpahlavi"],
    "10b60:13 5:8"⟩,
  ⟨["prti", "inscriptionalparthian"],
    "10b40:16 2:8"⟩,
  ⟨["java", "javanese"],
    "a980:4e 2:a 4:2"⟩,
  ⟨["kthi", "kaithi"],
    "11080:43 a"⟩,
  ⟨["knda", "kannada"],
    "c80:d 1:3 1:17 1:a 1:5 2:9 1:3 1:4 7:2 6:2 1:4 2:a 1:3"⟩,
  ⟨["kana", "katakana"],
    "30a1:5a 2:3 f0:10 d0:2f 1:58 cc0e:a 1:2d b052:4 1:7 1:2 1 11f:3 32 e:4"⟩,
  ⟨["kawi"],
    "11f00:11 1:29 3:1d"⟩,
  ⟨["kali", "kayahli"],
    "a900:2e 1"⟩,
  ⟨["khar", "kharoshthi"],
    "10a00:4 1:2 5:8 1:3 1:1d 2:3 4:a 7:9"⟩,
  ⟨["kits", "khitansmallscript"],
    "16fe4 1b1b:1d6 29"⟩,
  ⟨["khmr", "khmer"],
    "1780:5e 2:a 6:a 1e6:20"⟩,
  ⟨["khoj", "khojki"],
    "11200:12 1:2f"⟩,
  ⟨["sind", "khudawadi"],
    "112b0:3b 5:a"⟩,
  ⟨["krai", "kiratrai"],
    "16d40:3a"⟩,
  ⟨["laoo", "lao"],
    "e81:2 1 1:5 1:18 1 1:17 2:5 1 1:7 1:a 2:4"⟩,
  ⟨["latn", "latin"],
    "41:1a 6:1a 2f f 5:17 1:1f 1:1c1 27:5 1a1b:26 6:31 5:4 5:d 1:46 41:100 171 d 10:d 8d:2 6 1b
     11:29 ad7:20 7aa2:66 3:43 2:2 1 1:8 15:e 330:2b 1:9 1:4 4f96:7 41a:1a 6:1a 825:6 1:2a 1:9
     d745:1f 6:6"⟩,
  ⟨["lepc", "lepcha"],
    "1c00:38 3:f 3:3"⟩,
  ⟨["limb", "limbu"],
    "1900:1f 1:c 4:c 4 3:c"⟩,
  ⟨["lina", "lineara"],
    "10600:137 9:16 a:8"⟩,
  ⟨["linb", "linearb"],
    "10000:c 1:1a 1:13 1:2 1:f 2:e 22:7b"⟩,
  ⟨["lisu"],
    "a4d0:30 7ab0"⟩,
  ⟨["lyci", "lycian"],
    "10280:1d"⟩,
  ⟨["lydi", "lydian"],
    "10920:1a 5"⟩,
  ⟨["mahj", "mahajani"],
    "11150:27"⟩,
  ⟨["maka", "makasar"],
    "11ee0:19"⟩,
  ⟨["mlym", "malayalam"],
    "d00:d 1:3 1:33 1:3 1:6 4:10 2:1a"⟩,
  ⟨["mand", "mandaic"],
    "840:1c 2"⟩,
  ⟨["mani", "manichaean"],
    "10ac0:27 4:c"⟩,
  ⟨["marc", "marchen"],
    "11c70:20 2:16 1:e"⟩,
  ⟨["gonm", "masaramgondi"],
    "11d00:7 1:2 1:2c 3 1:2 1:9 8:a"⟩,
  ⟨["medf", "medefaidrin"],
    "16e40:5b"⟩,
  ⟨["mtei", "meeteimayek"],
    "aae0:17 c9:2e 2:a"⟩,
  ⟨["mend", "mendekikakui"],
    "1e800:c5 2:10"⟩,
  ⟨["merc", "meroiticcursive"],
    "109a0:18 4:14 2:2e"⟩,
  ⟨["mero", "meroitichieroglyphs"],
    "10980:20"⟩,
  ⟨["plrd", "miao"],
    "16f00:4b 4:39 7:11"⟩,
  ⟨["modi"],
    "11600:45 b:a"⟩,
  ⟨["mong", "mongolian"],
    "1800:2 2 1:14 6:59 7:2b fdb5:d"⟩,
  ⟨["mroo", "mro"],
    "16a40:1f 1:a 4:2"⟩,
  ⟨["mult", "multani"],
    "11280:7 1 1:4 1:f 1:b"⟩,
  ⟨["mymr", "myanmar"],
    "1000:a0 9940:1f 61:20 6c50:14"⟩,
  ⟨["nbat", "nabataean"],
    "10880:1f 8:9"⟩,
  ⟨["nagm", "nagmundari"],
    "1e4d0:2a"⟩,
  ⟨["nand", "nandinagari"],
    "119a0:8 2:2e 2:b"⟩,
  ⟨["talu", "newtailue"],
    "1980:2c 4:1a 6:b 3:2"⟩,
  ⟨["newa"],
    "11400:5c 1:5"⟩,
  ⟨["nkoo", "nko"],
    "7c0:3b 2:3"⟩,
  ⟨["nshu", "nushu"],
    "16fe1 418e:18c"⟩,
  ⟨["hmnp", "nyiakengpuachuehmong"],
    "1e100:2d 3:e 2:a 4:2"⟩,
  ⟨["ogam", "ogham"],
    "1680:1d"⟩,
  ⟨["olck", "olchiki"],
    "1c50:30"⟩,
  ⟨["onao", "olonal"],
    "1e5d0:2b 4"⟩,
  ⟨["hung", "oldhungarian"],
    "10c80:33 d:33 7:6"⟩,
  ⟨["ital", "olditalic"],
    "10300:24 9:3"⟩,
  ⟨["narb", "oldnortharabian"],
    "10a80:20"⟩,
  ⟨["perm", "oldpermic"],
    "10350:2b"⟩,
  ⟨["xpeo", "oldpersian"],
    "103a0:24 4:e"⟩,
  ⟨["sogo", "oldsogdian"],
    "10f00:28"⟩,
  ⟨["sarb", "oldsoutharabian"],
    "10a60:20"⟩,
  ⟨["orkh", "oldturkic"],
    "10c00:49"⟩,
  ⟨["ougr", "olduyghur"],
    "10f70:1a"⟩,
  ⟨["orya", "oriya"],
    "b01:3 1:8 2:2 2:16 1:7 1:2 1:5 2:9 2:2 2:3 7:3 4:2 1:5 2:12"⟩,
  ⟨["osge", "osage"],
    "104b0:24 4:24"⟩,
  ⟨["osma", "osmanya"],
    "10480:1e 2:a"⟩,
  ⟨["hmng", "pahawhhmong"],
    "16b00:46 a:a 1:7 1:15 5:13"⟩,
  ⟨["palm", "palmyrene"],
    "10860:20"⟩,
  ⟨["pauc", "paucinhau"],
    "11ac0:39"⟩,
  ⟨["phag", "phagspa"],
    "a840:38"⟩,
  ⟨["phnx", "phoenician"],
    "10900:1c 3"⟩,
  ⟨["phlp", "psalterpahlavi"],
    "10b80:12 7:4 c:7"⟩,
  ⟨["rjng", "rejang"],
    "a930:24 b"⟩,
  ⟨["runr", "runic"],
    "16a0:4b 3:b"⟩,
  ⟨["samr", "samaritan"],
    "800:2e 2:f"⟩,
  ⟨["saur", "saurashtra"],
    "a880:46 8:c"⟩,
  ⟨["shrd", "sharada"],
    "11180:60"⟩,
  ⟨["shaw", "shavian"],
    "10450:30"⟩,
  ⟨["sidd", "siddham"],
    "11580:36 2:26"⟩,
  ⟨["sgnw", "signwriting"],
    "1d800:28c f:5 1:f"⟩,
  ⟨["sinh", "sinhala"],
    "d81:3 1:12 3:18 1:9 1 2:7 3 4:6 1 1:8 6:a 2:3 103ec:14"⟩,
  ⟨["sogd", "sogdian"],
    "10f30:2a"⟩,
  ⟨["sora", "sorasompeng"],
    "110d0:19 7:a"⟩,
  ⟨["soyo", "soyombo"],
    "11a50:53"⟩,
  ⟨["sund", "sundanese"],
    "1b80:40 100:8"⟩,
  ⟨["sunu", "sunuwar"],
    "11bc0:22 e:a"⟩,
  ⟨["sylo", "sylotinagri"],
    "a800:2d"⟩,
  ⟨["syrc", "syriac"],
    "700:e 1:3c 2:3 110:b"⟩,
  ⟨["tglg", "tagalog"],
    "1700:16 9"⟩,
  ⟨["tagb", "tagbanwa"],
    "1760:d 1:3 1:2"⟩,
  ⟨["tale", "taile"],
    "1950:1e 2:5"⟩,
  ⟨["lana", "taitham"],
    "1a20:3f 1:1d 2:b 6:a 6:e"⟩,
  ⟨["tavt", "taiviet"],
    "aa80:43 18:5"⟩,
  ⟨["takr", "takri"],
    "11680:3a 6:a"⟩,
  ⟨["taml", "tamil"],
    "b82:2 1:6 3:3 1:4 3:2 1 1:2 3:2 3:3 3:c 4:5 3:3 1:4 2 6 e:15 113c5:32 d"⟩,
  ⟨["tnsa", "tangsa"],
    "16a70:4f 1:a"⟩,
  ⟨["tang", "tangut"],
    "16fe0 1f:17f8 8:300 200:9"⟩,
  ⟨["telu", "telugu"],
    "c00:d 1:3 1:17 1:10 2:9 1:3 1:4 7:2 1:3 2 2:4 2:a 7:9"⟩,
  ⟨["thaa", "thaana"],
    "780:32"⟩,
  ⟨["thai"],
    "e01:3a 5:1c"⟩,
  ⟨["tibt", "tibetan"],
    "f00:48 1:24 4:27 1:24 1:f 1:7 4:2"⟩,
  ⟨["tfng", "tifinagh"],
    "2d30:38 7:2 e"⟩,
  ⟨["tirh", "tirhuta"],
    "11480:48 8:a"⟩,
  ⟨["todr", "todhri"],
    "105c0:34"⟩,
  ⟨["toto"],
    "1e290:1f"⟩,
  ⟨["tutg", "tulutigalari"],
    "11380:a 1 2 1:26 1:a 1 2 1:4 1:a 1:2 8:2"⟩,
  ⟨["ugar", "ugaritic"],
    "10380:1e 1"⟩,
  ⟨["vaii", "vai"],
    "a500:12c"⟩,
  ⟨["vith", "vithkuqi"],
    "10570:b 1:f 1:7 1:2 1:b 1:f 1:7 1:2"⟩,
  ⟨["wcho", "wancho"],
    "1e2c0:3a 5"⟩,
  ⟨["wara", "warangciti"],
    "118a0:53 c"⟩,
  ⟨["yezi", "yezidi"],
    "10e80:2a 1:3 2:2"⟩,
  ⟨["yiii", "yi"],
    "a000:48d 3:37"⟩,
  ⟨["zanb", "zanabazarsquare"],
    "11a00:48"⟩]

end Unicode
end LineSieve
