import LineSieve.Unicode.Packed

/-!
# Segmentation properties

The classes of characters that the segmentation of text into grapheme clusters, words and sentences
distinguishes.
-/

namespace LineSieve
namespace Unicode

/-- The values of `Grapheme_Cluster_Break`. -/
def graphemeClusterBreaks : List NamedSet := [
  ⟨["cr"],
    "d"⟩,
  ⟨["cn", "control"],
    "0:a 1:2 1:12 5f:21 d 56e 11f1 7fc 2:2 18:7 31:10 de8f f0:c 3434:10 8860:4 14cf:8 c2e85:20
     60:80 f0:e10"⟩,
  ⟨["ex", "extend"],
    "300:70 113:7 107:2d 1 1:2 1:2 1 48:b 30:15 10 65:7 2:6 2:2 1:4 23 1e:1b 5b:b 3a:9 9 18:4 1:9
     1:3 1:5 2b:3 3b:9 2a:18 1:20 37 1 4:8 4 3:7 a:2 1d 3a 1 2:4 8 9 a:2 1a 2:2 39 4:2 4:2 2:3 3
     1e:2 3 b:2 39 4:5 1:2 4 14:2 16:6 1 3a 1:2 1:4 8 7:3 a:2 1e 3b 1 c 9 28 3 37 1:3 5:3 1:4 7:2
     b:2 1d 3a 2:2 1 3:3 1:4 7:2 b:2 1c:2 39:2 1 2:4 8 9 a:2 1d 48 4 2:3 1 8 51 2:7 c:8 62 2:9 b:7
     49:2 1b 1 1 37:e 1:5 1:2 5:b 1:24 9 66:4 1:6 1:2 2:2 19:2 4:3 10:4 d 2:2 6 f 2bf:3 3b2:4 1c:3
     1d:2 1e:2 40:2 1:7 8 2:b 9 2d:3 1 75:2 22 76:3 4:2 9 6:3 db:2 2 3a 1:7 1 1 2:8 6:a 2 30:1f
     31:4 30:a 4:3 26:9 c:2 20:4 2:6 38 1:2 3 1:5 38:8 2:2 98:3 1:d 1:7 4 6 3:2 c6:40 20c c3:21
     bfe:3 8d 60:20 22a:6 69:2 75d4:4 1:a 20:2 50:2 110 3 4 19:2 5 97:2 1a:12 d 26:8 19:b 1 2c:3 30
     2:4 2:2 2 24 43:6 2:2 2:2 c 8 2f 33 1:3 2:2 5:2 1 2a:2 8 ee 2 4 4f30 2e1:10 10:10 16e:2 25d e2
     95:5 686:3 1:2 5:4 28:3 4 a5:2 23d:4 41:5 13d:2 4f:4 46:b 31:4 7b 36:f 29 2:2 a:3 31:4 2:2 7
     3d:3 24:5 1:8 3e c:2 34:9 1 8:4 2 5f:3 2:4 6 2 9d 3:8 15:2 39:2 1 1 c 9 e:7 3:5 43 2:6 1 2 1:3
     4:3 1 e:2 55:8 2:3 1 17 51 2:6 1 2 1:2 1:2 eb 2:4 6:2 1:2 1b:2 55:8 2 1:2 6a 1 2:8 65 1 2:4
     1:5 103:9 1:2 f5 a:4 4 90:4 2:2 4 20:a 28:6 2:4 8 9:6 2:3 2e:d 1:2 196:7 1:6 1 52:16 2:7 1:2
     1:2 7a:6 3 1:2 1:7 1 48:2 3 1 15b:2 b:2 34:5 5:3 17 14e5 6:f 2cc8:c 3:3 9c0:5 3b:7 418 3f:4 51
     b:2 4cab:2 1261:2e 2:17 21e:5 3:6 8:8 2:7 1e:4 94:3 7bb:37 4:32 8 e 16:5 1:f 550:7 1:11 2:7
     1:2 1:5 64 a0:7 177 3d:4 1fc:4 fe:2 2e0:7 6d:7 ab0:5 c0c20:60 80:f0"⟩,
  ⟨["l"],
    "1100:60 9800:1d"⟩,
  ⟨["lf"],
    "a"⟩,
  ⟨["lv"],
    "ac00 1b 1b 1b 1b 1b 1b 1b 1b 1b 1b 1b 1b 1b 1b 1b 1b 1b 1b 1b 1b 1b 1b 1b 1b 1b 1b 1b 1b 1b 1b
     1b 1b 1b 1b 1b 1b 1b 1b 1b 1b 1b 1b 1b 1b 1b 1b 1b 1b 1b 1b 1b 1b 1b 1b 1b 1b 1b 1b 1b 1b 1b
     1b 1b 1b 1b 1b 1b 1b 1b 1b 1b 1b 1b 1b 1b 1b 1b 1b 1b 1b 1b 1b 1b 1b 1b 1b 1b 1b 1b 1b 1b 1b
     1b 1b 1b 1b 1b 1b 1b 1b 1b 1b 1b 1b 1b 1b 1b 1b 1b 1b 1b 1b 1b 1b 1b 1b 1b 1b 1b 1b 1b 1b 1b
     1b 1b 1b 1b 1b 1b 1b 1b 1b 1b 1b 1b 1b 1b 1b 1b 1b 1b 1b 1b 1b 1b 1b 1b 1b 1b 1b 1b 1b 1b 1b
     1b 1b 1b 1b 1b 1b 1b 1b 1b 1b 1b 1b 1b 1b 1b 1b 1b 1b 1b 1b 1b 1b 1b 1b 1b 1b 1b 1b 1b 1b 1b
     1b 1b 1b 1b 1b 1b 1b 1b 1b 1b 1b 1b 1b 1b 1b 1b 1b 1b 1b 1b 1b 1b 1b 1b 1b 1b 1b 1b 1b 1b 1b
     1b 1b 1b 1b 1b 1b 1b 1b 1b 1b 1b 1b 1b 1b 1b 1b 1b 1b 1b 1b 1b 1b 1b 1b 1b 1b 1b 1b 1b 1b 1b
     1b 1b 1b 1b 1b 1b 1b 1b 1b 1b 1b 1b 1b 1b 1b 1b 1b 1b 1b 1b 1b 1b 1b 1b 1b 1b 1b 1b 1b 1b 1b
     1b 1b 1b 1b 1b 1b 1b 1b 1b 1b 1b 1b 1b 1b 1b 1b 1b 1b 1b 1b 1b 1b 1b 1b 1b 1b 1b 1b 1b 1b 1b
     1b 1b 1b 1b 1b 1b 1b 1b 1b 1b 1b 1b 1b 1b 1b 1b 1b 1b 1b 1b 1b 1b 1b 1b 1b 1b 1b 1b 1b 1b 1b
     1b 1b 1b 1b 1b 1b 1b 1b 1b 1b 1b 1b 1b 1b 1b 1b 1b 1b 1b 1b 1b 1b 1b 1b 1b 1b 1b 1b 1b 1b 1b
     1b 1b 1b 1b 1b 1b 1b 1b 1b 1b 1b 1b 1b 1b 1b 1b 1b 1b 1b 1b 1b 1b 1b 1b 1b 1b 1b"⟩,
  ⟨["lvt"],
    "ac01:1b 1:1b 1:1b 1:1b 1:1b 1:1b 1:1b 1:1b 1:1b 1:1b 1:1b 1:1b 1:1b 1:1b 1:1b 1:1b 1:1b 1:1b
     1:1b 1:1b 1:1b 1:1b 1:1b 1:1b 1:1b 1:1b 1:1b 1:1b 1:1b 1:1b 1:1b 1:1b 1:1b 1:1b 1:1b 1:1b 1:1b
     1:1b 1:1b 1:1b 1:1b 1:1b 1:1b 1:1b 1:1b 1:1b 1:1b 1:1b 1:1b 1:1b 1:1b 1:1b 1:1b 1:1b 1:1b 1:1b
     1:1b 1:1b 1:1b 1:1b 1:1b 1:1b 1:1b 1:1b 1:1b 1:1b 1:1b 1:1b 1:1b 1:1b 1:1b 1:1b 1:1b 1:1b 1:1b
     1:1b 1:1b 1:1b 1:1b 1:1b 1:1b 1:1b 1:1b 1:1b 1:1b 1:1b 1:1b 1:1b 1:1b 1:1b 1:1b 1:1b 1:1b 1:1b
     1:1b 1:1b 1:1b 1:1b 1:1b 1:1b 1:1b 1:1b 1:1b 1:1b 1:1b 1:1b 1:1b 1:1b 1:1b 1:1b 1:1b 1:1b 1:1b
     1:1b 1:1b 1:1b 1:1b 1:1b 1:1b 1:1b 1:1b 1:1b 1:1b 1:1b 1:1b 1:1b 1:1b 1:1b 1:1b 1:1b 1:1b 1:1b
     1:1b 1:1b 1:1b 1:1b 1:1b 1:1b 1:1b 1:1b 1:1b 1:1b 1:1b 1:1b 1:1b 1:1b 1:1b 1:1b 1:1b 1:1b 1:1b
     1:1b 1:1b 1:1b 1:1b 1:1b 1:1b 1:1b 1:1b 1:1b 1:1b 1:1b 1:1b 1:1b 1:1b 1:1b 1:1b 1:1b 1:1b 1:1b
     1:1b 1:1b 1:1b 1:1b 1:1b 1:1b 1:1b 1:1b 1:1b 1:1b 1:1b 1:1b 1:1b 1:1b 1:1b 1:1b 1:1b 1:1b 1:1b
     1:1b 1:1b 1:1b 1:1b 1:1b 1:1b 1:1b 1:1b 1:1b 1:1b 1:1b 1:1b 1:1b 1:1b 1:1b 1:1b 1:1b 1:1b 1:1b
     1:1b 1:1b 1:1b 1:1b 1:1b 1:1b 1:1b 1:1b 1:1b 1:1b 1:1b 1:1b 1:1b 1:1b 1:1b 1:1b 1:1b 1:1b 1:1b
     1:1b 1:1b 1:1b 1:1b 1:1b 1:1b 1:1b 1:1b 1:1b 1:1b 1:1b 1:1b 1:1b 1:1b 1:1b 1:1b 1:1b 1:1b 1:1b
     1:1b 1:1b 1:1b 1:1b 1:1b 1:1b 1:1b 1:1b 1:1b 1:1b 1:1b 1:1b 1:1b 1:1b 1:1b 1:1b 1:1b 1:1b 1:1b
     1:1b 1:1b 1:1b 1:1b 1:1b 1:1b 1:1b 1:1b 1:1b 1:1b 1:1b 1:1b 1:1b 1:1b 1:1b 1:1b 1:1b 1:1b 1:1b
     1:1b 1:1b 1:1b 1:1b 1:1b 1:1b 1:1b 1:1b 1:1b 1:1b 1:1b 1:1b 1:1b 1:1b 1:1b 1:1b 1:1b 1:1b 1:1b
     1:1b 1:1b 1:1b 1:1b 1:1b 1:1b 1:1b 1:1b 1:1b 1:1b 1:1b 1:1b 1:1b 1:1b 1:1b 1:1b 1:1b 1:1b 1:1b
     1:1b 1:1b 1:1b 1:1b 1:1b 1:1b 1:1b 1:1b 1:1b 1:1b 1:1b 1:1b 1:1b 1:1b 1:1b 1:1b 1:1b 1:1b 1:1b
     1:1b 1:1b 1:1b 1:1b 1:1b 1:1b 1:1b 1:1b 1:1b 1:1b 1:1b 1:1b 1:1b 1:1b 1:1b 1:1b 1:1b 1:1b 1:1b
     1:1b 1:1b 1:1b 1:1b 1:1b 1:1b 1:1b 1:1b 1:1b 1:1b 1:1b 1:1b 1:1b 1:1b 1:1b 1:1b 1:1b 1:1b 1:1b
     1:1b 1:1b 1:1b 1:1b 1:1b 1:1b 1:1b 1:1b 1:1b 1:1b 1:1b 1:1b 1:1b 1:1b 1:1b 1:1b 1:1b 1:1b 1:1b
     1:1b"⟩,
  ⟨["pp", "prepend"],
    "600:6 d7 31 180:2 50 46b 1036e f f4:2 20d 56d 1 f8 49:6 2bc 1bb"⟩,
  ⟨["ri", "regionalindicator"],
    "1f1e6:1a"⟩,
  ⟨["sm", "spacingmark"],
    "903 37 2:3 8:4 1:2 32:2 3b:2 6:2 2:2 36 3a:3 42 3a:3 8 1:2 35:2 3c 6:2 2:2 72 1:2 3:3 1:3 34:3
     3d:4 3d:2 3a 2 1:2 2e e:2 3b:2 5:3 1:3 35:2 4c:2 6:7 13:2 3f 7f 8a:2 3f b1 9:2 19:2 2c 731 7:8
     1:2 15a:4 2:3 4:2 1:6 e0:2 3a 1 15:6 91 39:4 40 1e 4:2 3f 2:3 1 35:8 8:2 ab 15 8b2b:2 2 58:2
     32:10 8e 30 30:2 4:2 2:2 6f:2 2:2 18 9d 2:2 5 ed:2 1:2 1:2 1 6413 1 7f 2d:3 4:2 73 18:2 3b
     30:3 9 e 5d:3 3:2 ac:3 1f:2 3b 1:4 2:2 2:2 15:2 55:2 f 1:2 67:3 8:2 3 6b:2 6 1:2 1 2 ee:2 6:4
     2 71:3 8:2 1 6d 1:2 6e 7 105:3 9 f8:5 1:2 7 1 8e:3 8:4 4 54 1d:2 3e 197 e 6a 7 2 d5:5 4:2 1
     15e:2 c 30:2 8:2 41ea:3 e24:37"⟩,
  ⟨["t"],
    "11a8:58 c5cb:31"⟩,
  ⟨["v"],
    "1160:48 c608:17 959c 3:4"⟩,
  ⟨["zwj"],
    "200d"⟩]

/-- The values of `Word_Break`. -/
def wordBreaks : List NamedSet := [
  ⟨["le", "aletter"],
    "41:1a 6:1a 2f a 4 5:17 1:1f 1:1e0 6:22 70:5 1:2 2:4 1 6 1:3 1 1:14 1:53 1:8b 8:a6 1:26 2:4 1
     1:29 1 68 2c:2b 23:2 1:63 1 f:2 7:2 a:3 2 f:2 1:1e 1d:59 b 18:21 9:2 4 5:16 4 9 3 17:19 7:b
     5:18 1:6 11:2a 3a:36 3 12 7:a f:10 4:8 2:2 2:16 1:7 1 3:4 3 10 d:2 1:3 e:2 a 8:6 4:2 2:16 1:7
     1:2 1:2 1:2 1f:4 1 13:3 10:9 1:3 1:16 1:7 1:2 1:5 3 12 f:2 17 b:8 2:2 2:16 1:7 1:2 1:5 3 1e:2
     1:3 f 11 1:6 3:3 1:4 3:2 1 1:2 3:2 3:3 3:c 16 34:8 1:3 1:17 1:10 3 1a:3 2 2:2 1e 4:8 1:3 1:17
     1:a 1:5 3 1f:2 1:2 f:2 11:9 1:3 1:29 2 10 5:3 8:3 18:6 5:12 3:18 1:9 1 2:7 139 3f:8 1:24 1b:5
     113:26 1 5 2:2b 1:14d 1:4 2:7 1 1:4 2:29 1:4 2:21 1:4 2:7 1 1:4 2:f 1:39 1:4 2:43 25:10 10:56
     2:6 3:26c 2:11 1:1a 5:4b 3:b 7:12 d:13 e:12 e:d 1:3 af:59 7:5 2:22 1 5:46 a:1f e1:17 ee:2f
     11:8 36:1e d:2 a:2c 1a:24 29:3 a:24 2:b 5:2b 2:3 29:4 1:6 1:2 3 5:c0 40:116 2:6 2:26 2:6 2:8 1
     1 1 1:1f 2:35 1:7 1 3:3 1:7 3:4 2:6 4:d 5:3 1:7 74 d 10:d 65 4 2:a 1 3:5 6 1 1 1:4 1:b 2:4 5:5
     4 11:29 32d:34 716:e5 6:4 3:2 c:26 1 5 2:38 7 10:17 9:7 1:7 1:7 1:7 1:7 1:7 1:7 1:7 50 1d5
     35:2 c8:2b 1:5e 11:20 6e40:48d 43:2e 2:10d 3:10 a:2 14:2f 10:1f 2:50 18:c6 2:2 1 1:8 15:10 1:3
     1:4 1:17 1d:34 e:32 3e:6 3 1:2 b:1c a:17 19:1d 7:2f 1c 30:29 17:3 1:8 94:b 7:3 c:6 2:6 2:6 9:7
     1:7 1:3a 6:73 1d:2ba4 c:17 4:31 2304:7 c:5 38:62 21:16b 12:40 2:36 28:c 74:5 1:87 24:1a 6:1a
     45:1f 3:6 2:6 2:6 2:3 23:c 1:1a 1:13 1:2 1:f 2:e 22:7b 45:35 10b:1d 3:31 2f:20 d:1e 5:26 a:1e
     2:24 4:8 1:5 2a:9e 12:24 4:24 4:28 8:34 c:b 1:f 1:7 1:2 1:b 1:f 1:7 1:2 3:34 c:137 9:16 a:8
     18:6 1:2a 1:9 45:6 2 1:2c 1:2 3 2:17 a:17 9:1f 41:13 1:2 a:16 a:1a 46:38 6:2 40 f:4 1:3 1:1d
     2a:1d 3:1d 23:8 1:1c 1b:36 a:16 a:13 d:12 6e:49 37:33 d:33 d:24 26:1c 9:17 fa:2a 6:2 10:3
     3b:1d a 8:16 2a:12 2e:15 1b:17 c:35 39:2 2 d:2d 20:19 1a:24 1d 2 8:23 3 c:30 e:4 15 1 23:12
     1:19 13:2 3f:7 1 1:4 1:f 1:a 7:2f 26:8 2:2 2:16 1:7 1:2 1:5 3 12 c:5 1e:a 1 2 1:26 1 19 1
     2c:35 12:4 14:3 1e:30 14:2 1 b8:2f 29:4 24:30 14 3b:2b d 147:2c 74:40 1f:8 2 2:8 1:2 1:18 f 1
     5e:8 2:27 10 1 1c a:28 7 15 b:2e 13 12:49 c7:21 1f:9 1:25 11 31:1e 70:7 1:2 1:26 15 19:6 1:2
     1:20 e 147:13 f 1:d 1:22 7c 4f:39a 66:6f 11:c4 a4c:61 f:430 11:6 19:f9b 5:247 1ab9:1e 6e2:239
     7:1f 11:4f 11:1e 12:30 10:4 1f:15 5:13 1b0:2d d3:40 80:4b 5 42:d 40:2 1 4c1c:6b 5:d 3:9 7:a
     1766:55 1:47 1:2 2 2:2 2:4 1:c 1 1:7 1:41 1:4 2:8 1:7 1:1c 1:4 1:5 1 3:7 1:154 2:19 1:19 1:1f
     1:19 1:1f 1:19 1:1f 1:19 1:1f 1:19 1:8 734:1f 6:6 105:3e 92:2d a:7 10 141:1e 12:2c 1e4:1c
     e4:1e 2 1ef:7 1:4 1:2 1:f 1:c5 3b:44 7 4b4:4 1:1b 1:2 1 2 1:a 1:4 1 1 6 4 1 1 1:3 1:2 1 2 1 1
     1 1 1:2 1 2:4 1:7 1:4 1:4 1 1:a 1:11 5:3 1:5 1:11 274:1a 6:1a 6:1a"⟩,
  ⟨["cr"],
    "d"⟩,
  ⟨["dq", "doublequote"],
    "22"⟩,
  ⟨["extend"],
    "300:70 113:7 107:2d 1 1:2 1:2 1 48:b 30:15 10 65:7 2:6 2:2 1:4 23 1e:1b 5b:b 3a:9 9 18:4 1:9
     1:3 1:5 2b:3 3b:9 2a:18 1:21 36:3 1:12 1:7 a:2 1d:3 38 1:7 2:2 2:3 9 a:2 1a 2:3 38 1:5 4:2 2:3
     3 1e:2 3 b:3 38 1:8 1:3 1:3 14:2 16:6 1:3 38 1:7 2:2 2:3 7:3 a:2 1e 3b:5 3:3 1:4 9 28:5 37 1:7
     1:3 1:4 7:2 b:2 1d:3 38 1:7 1:3 1:4 7:2 b:2 f c:4 37:2 1:7 1:3 1:4 9 a:2 1d:3 46 4:6 1 1:8
     12:2 3d 2:7 c:8 62 2:9 b:7 49:2 1b 1 1 4:2 31:14 1:2 5:b 1:24 9 64:14 17:4 4:3 1:3 2:7 3:4 d:c
     1 a:4 2bf:3 3b2:4 1c:3 1d:2 1e:2 40:20 9 2d:3 1 75:2 22 76:c 4:c db:5 39:a 1:1d 2 30:1f 31:5
     2f:11 26:9 c:3 1e:d 38:e 30:14 98:3 1:15 4 6 2:3 c6:40 20c c3:21 bfe:3 8d 60:20 22a:6 69:2
     75d4:4 1:a 20:2 50:2 110 3 4 17:5 4 53:2 32:12 1a:12 d 26:8 19:d 2c:4 2f:e 24 43:e c 8:2 2d:3
     32 1:3 2:2 5:2 1 29:5 5:2 ec:8 1:2 4f30 2e1:10 10:10 16e:2 25d e2 95:5 686:3 1:2 5:4 28:3 4
     a5:2 23d:4 41:5 13d:2 4f:4 46:b 31:4 7a:3 35:f 29 2:2 a:4 2d:b 7 3d:3 24:e 10:2 2c c:3 30:e
     8:4 1:2 5c:c 6 2 9d:c 15:4 37:2 1:7 2:2 2:3 9 a:2 2:7 3:5 43:9 1 2 1:4 1:5 1 e:2 52:12 17
     51:14 eb:7 2:9 1b:2 52:11 6a:d 65:f 100:f f5:6 1:2 2:4 1 1:2 8d:7 2:7 3 1c:a 28:7 1:4 8 9:b
     2e:10 195:8 1:8 52:16 1:e 7a:6 3 1:2 1:7 1 42:5 1:2 1:5 15b:4 9:2 1 30:7 3:5 17 14e5 6:f
     2cc8:12 9c0:5 3b:7 418 1:37 7:4 51 b:2 4cab:2 1261:2e 2:17 21e:5 3:6 8:8 2:7 1e:4 94:3 7bb:37
     4:32 8 e 16:5 1:f 550:7 1:11 2:7 1:2 1:5 64 a0:7 177 3d:4 1fc:4 fe:2 2e0:7 6d:7 ab0:5 c0c20:60
     80:f0"⟩,
  ⟨["ex", "extendnumlet"],
    "5f 1fcf f:2 13 ddde:2 18:3 ef"⟩,
  ⟨["fo", "format"],
    "ad 56e 11f1 7ff:2 1a:5 31:5 1:a de8f f9:3 3434:10 8860:4 14cf:8 c2e86"⟩,
  ⟨["hl", "hebrewletter"],
    "5d0:1b 4:4 f52a 1:a 1:d 1:5 1 1:2 1:2 1:a"⟩,
  ⟨["ka", "katakana"],
    "3031:5 65:2 3:5b 1:4 f0:10 d0:2f 1:58 cc0e:38 b052:4 1:7 1:2 1 11f:3 32 e:4"⟩,
  ⟨["lf"],
    "a"⟩,
  ⟨["ml", "midletter"],
    "3a 7c 2cf 1d7 94 1a32 ddeb 41 c4"⟩,
  ⟨["mn", "midnum"],
    "2c e 342 20a 82:2 5e 18b 184b de0b 3 b7 e"⟩,
  ⟨["mb", "midnumlet"],
    "2e 1fe9:2 a de2d b4 6"⟩,
  ⟨["nl", "newline"],
    "b:2 78 1fa2:2"⟩,
  ⟨["nu", "numeric"],
    "30:a 5c6:6 5a:a 1 71 12:a c6:a c6:2 50 83:a 76:a 76:a 76:a 76:a 76:a 76:a 76:a 76:a 76:a 60:a
     76:a 46:a 116:a 46:a 746:a 26:a 12c:a 80:a a6:a 6:a b6:a 56:a 86:a 6:a 89c6:a 2a6:a 26:a c6:a
     16:a 56:a 196:a 5316:a 586:a 886:a 6:a 31c:a 4d f 22:a 3c:a 90:a 116:a 156:a 76:a 176:a 66:a
     6:14 4c:a 1a6:a 66:a 296:a 56:a f6:a 46:a 1a6:a 41d6:a 926:a 56:a 86:a 216:a 5f76:a ad4:32
     940:a 1a6:a 1f6:a f7:a 355:a 1296:a"⟩,
  ⟨["ri", "regionalindicator"],
    "1f1e6:1a"⟩,
  ⟨["sq", "singlequote"],
    "27"⟩,
  ⟨["wsegspace"],
    "20 165f 97f:7 1:3 54 fa0"⟩,
  ⟨["zwj"],
    "200d"⟩]

/-- The values of `Sentence_Break`. -/
def sentenceBreaks : List NamedSet := [
  ⟨["at", "aterm"],
    "2e 1ff5 de2d bb"⟩,
  ⟨["cr"],
    "d"⟩,
  ⟨["cl", "close"],
    "22 4:3 31 1 1d 1 2d f e7e:4 75d:2 97b:8 19:2 a:2 36:2 e:2 279:4 1d:2 430:6 7:e 4f:2 1f:a
     193:16 3f:4 20:2 402:e e:2 2:a 18 12:8 1ab:a 2:8 1:3 cd1e:2 d7:2 1c:10 2:2 10:6 a9:2 31 1 1d 1
     1:2 1:2 f712:3"⟩,
  ⟨["ex", "extend"],
    "300:70 113:7 107:2d 1 1:2 1:2 1 48:b 30:15 10 65:7 2:6 2:2 1:4 23 1e:1b 5b:b 3a:9 9 18:4 1:9
     1:3 1:5 2b:3 3b:9 2a:18 1:21 36:3 1:12 1:7 a:2 1d:3 38 1:7 2:2 2:3 9 a:2 1a 2:3 38 1:5 4:2 2:3
     3 1e:2 3 b:3 38 1:8 1:3 1:3 14:2 16:6 1:3 38 1:7 2:2 2:3 7:3 a:2 1e 3b:5 3:3 1:4 9 28:5 37 1:7
     1:3 1:4 7:2 b:2 1d:3 38 1:7 1:3 1:4 7:2 b:2 f c:4 37:2 1:7 1:3 1:4 9 a:2 1d:3 46 4:6 1 1:8
     12:2 3d 2:7 c:8 62 2:9 b:7 49:2 1b 1 1 4:2 31:14 1:2 5:b 1:24 9 64:14 17:4 4:3 1:3 2:7 3:4 d:c
     1 a:4 2bf:3 3b2:4 1c:3 1d:2 1e:2 40:20 9 2d:3 1 75:2 22 76:c 4:c db:5 39:a 1:1d 2 30:1f 31:5
     2f:11 26:9 c:3 1e:d 38:e 30:14 98:3 1:15 4 6 2:3 c6:40 20c:2 c2:21 bfe:3 8d 60:20 22a:6 69:2
     75d4:4 1:a 20:2 50:2 110 3 4 17:5 4 53:2 32:12 1a:12 d 26:8 19:d 2c:4 2f:e 24 43:e c 8:2 2d:3
     32 1:3 2:2 5:2 1 29:5 5:2 ec:8 1:2 4f30 2e1:10 10:10 16e:2 25d e2 95:5 686:3 1:2 5:4 28:3 4
     a5:2 23d:4 41:5 13d:2 4f:4 46:b 31:4 7a:3 35:f 29 2:2 a:4 2d:b 7 3d:3 24:e 10:2 2c c:3 30:e
     8:4 1:2 5c:c 6 2 9d:c 15:4 37:2 1:7 2:2 2:3 9 a:2 2:7 3:5 43:9 1 2 1:4 1:5 1 e:2 52:12 17
     51:14 eb:7 2:9 1b:2 52:11 6a:d 65:f 100:f f5:6 1:2 2:4 1 1:2 8d:7 2:7 3 1c:a 28:7 1:4 8 9:b
     2e:10 195:8 1:8 52:16 1:e 7a:6 3 1:2 1:7 1 42:5 1:2 1:5 15b:4 9:2 1 30:7 3:5 17 14e5 6:f
     2cc8:12 9c0:5 3b:7 418 1:37 7:4 51 b:2 4cab:2 1261:2e 2:17 21e:5 3:6 8:8 2:7 1e:4 94:3 7bb:37
     4:32 8 e 16:5 1:f 550:7 1:11 2:7 1:2 1:5 64 a0:7 177 3d:4 1fc:4 fe:2 2e0:7 6d:7 c16d5:60 80:f0"⟩,
  ⟨["fo", "format"],
    "ad 56e f2 10fe 7fc 2:2 1a:5 31:5 1:a de8f f9:3 3434:10 8860:4 14cf:8 c2e86"⟩,
  ⟨["lf"],
    "a"⟩,
  ⟨["lo", "lower"],
    "61:1a 2f a 4 24:18 1:8 1 1 1 1 1 1 1 1 1 1 1 1 1 1 1 1 1 1 1 1 1 1 1 1 1 1 1 1:2 1 1 1 1 1 1 1
     1:2 1 1 1 1 1 1 1 1 1 1 1 1 1 1 1 1 1 1 1 1 1 1 1 2 1 1:3 2 1 2 3:2 4 2 3:3 2 2 1 1 2 1:2 1 2
     3 1 2:2 2:3 6 2 2 1 1 1 1 1 1 1 1:2 1 1 1 1 1 1 1 1 1:2 2 1 3 1 1 1 1 1 1 1 1 1 1 1 1 1 1 1 1
     1 1 1 1 1 1 1 1 1 1 1 1 1:7 2 2:2 1 4 1 1 1 1:45 1:24 7:2 1e:5 8c 1 3 2:4 12 1b:23 1:2 3:3 1 1
     1 1 1 1 1 1 1 1 1 1:5 1 2 2:2 33:30 1 1 1 1 1 1 1 1 1 1 1 1 1 1 1 1 1 9 1 1 1 1 1 1 1 1 1 1 1
     1 1 1 1 1 1 1 1 1 1 1 1 1 1 1 2 1 1 1 1 1 1:2 1 1 1 1 1 1 1 1 1 1 1 1 1 1 1 1 1 1 1 1 1 1 1 1
     1 1 1 1 1 1 1 1 1 1 1 1 1 1 1 1 1 1 1 1 1 1 1 1 30:29 b73 2fb:6 882:9 1 75:c0 41 1 1 1 1 1 1 1
     1 1 1 1 1 1 1 1 1 1 1 1 1 1 1 1 1 1 1 1 1 1 1 1 1 1 1 1 1 1 1 1 1 1 1 1 1 1 1 1 1 1 1 1 1 1 1
     1 1 1 1 1 1 1 1 1 1 1 1 1 1 1 1 1 1 1 1:9 1 1 1 1 1 1 1 1 1 1 1 1 1 1 1 1 1 1 1 1 1 1 1 1 1 1
     1 1 1 1 1 1 1 1 1 1 1 1 1 1 1 1 1 1 1 1 1 1 1:9 8:6 a:8 8:8 8:6 a:8 8:8 8:e 2:8 8:8 8:8 8:5
     1:2 6 3:3 1:2 8:4 2:2 8:8 a:3 1:2 79 d 10:d 6d 3:2 3 1b 4 4 2:2 8:4 4 21:10 4 34b:1a 746:30 1
     3:2 1 1 1 4 1:2 1:8 3 1 1 1 1 1 1 1 1 1 1 1 1 1 1 1 1 1 1 1 1 1 1 1 1 1 1 1 1 1 1 1 1 1 1 1 1
     1 1 1 1 1 1 1 1 1 1 1 1 1:2 7 1 4 c:26 1 5 7913 1 1 1 1 1 1 1 1 1 1 1 1 1 1 1 1 1 1 1 1 1 1 13
     1 1 1 1 1 1 1 1 1 1 1 1 1:3 85 1 1 1 1 1 1:3 1 1 1 1 1 1 1 1 1 1 1 1 1 1 1 1 1 1 1 1 1 1 1 1 1
     1 1 1 1 1 1:a 1 1 2 1 1 1 1 4 1 2 1:3 1 1 1 1 1 1 1 1 1 1 5 5 1 1 1 1 1 1 1 4 1 2 3 1 1 1 1 1
     16:3 1 1:3 335:2b 1:e 6:50 4f40:7 c:5 429:1a 4cd:28 88:24 9b:b 1:f 1:7 1:2 1c3 2:3 1:2a 1:9
     505:33 7d:16 b3a:20 5580:20 659a:1a 1a:7 1:12 1a:1a 1a:4 1 1:7 1:b 1a:1a 1a:1a 1a:1a 1a:1a
     1a:1a 1a:1a 1a:1a 1a:1a 1a:1c 1c:19 1:6 1a:19 1:6 1a:19 1:6 1a:19 1:6 1a:19 1:6 1 734:a 1:14
     6:6 105:3e 8b4:22"⟩,
  ⟨["nu", "numeric"],
    "30:a 5c6:6 5a:a 1:2 70 12:a c6:a c6:2 50 83:a 76:a 76:a 76:a 76:a 76:a 76:a 76:a 76:a 76:a
     60:a 76:a 46:a 116:a 46:a 746:a 26:a 12c:a 80:a a6:a 6:a b6:a 56:a 86:a 6:a 89c6:a 2a6:a 26:a
     c6:a 16:a 56:a 196:a 5316:a 586:a 886:a 6:a 31c:a 4d f 22:a 3c:a 90:a 116:a 156:a 76:a 176:a
     66:a 6:14 4c:a 1a6:a 66:a 296:a 56:a f6:a 46:a 1a6:a 41d6:a 926:a 56:a 86:a 216:a 5f76:a
     ad4:32 940:a 1a6:a 1f6:a f7:a 355:a 1296:a"⟩,
  ⟨["le", "oletter"],
    "1bb 4:4 d0 24:7 6:c 1a 1 85 1e4 76:1b 4:5 2c:2b 23:2 1:63 1 f:2 7:2 a:3 2 10 1:1e 1d:59 b
     18:21 9:2 4 5:16 4 9 3 17:19 7:b 5:18 1:6 11:2a 3a:36 3 12 7:a f:10 4:8 2:2 2:16 1:7 1 3:4 3
     10 d:2 1:3 e:2 a 8:6 4:2 2:16 1:7 1:2 1:2 1:2 1f:4 1 13:3 10:9 1:3 1:16 1:7 1:2 1:5 3 12 f:2
     17 b:8 2:2 2:16 1:7 1:2 1:5 3 1e:2 1:3 f 11 1:6 3:3 1:4 3:2 1 1:2 3:2 3:3 3:c 16 34:8 1:3 1:17
     1:10 3 1a:3 2 2:2 1e 4:8 1:3 1:17 1:a 1:5 3 1f:2 1:2 f:2 11:9 1:3 1:29 2 10 5:3 8:3 18:6 5:12
     3:18 1:9 1 2:7 3a:30 1:2 c:7 3a:2 1 1:5 1:18 1 1:a 1:2 9 2:5 1 15:4 20 3f:8 1:24 1b:5 73:2b 14
     10:6 4:4 3 3:2 7:3 4:d c 41:2b 2:14c 1:4 2:7 1 1:4 2:29 1:4 2:21 1:4 2:7 1 1:4 2:f 1:39 1:4
     2:43 25:10 71:26c 2:11 1:1a 5:4b 3:b 7:12 d:13 e:12 e:d 1:3 f:34 23 4 43:59 7:5 2:22 1 5:46
     a:1f 31:1e 2:5 b:2c 4:1a 36:17 9:35 52 5d:2f 11:8 36:1e d:2 a:2c 1a:24 29:3 a:24 12:2b 2:3
     29:4 1:6 1:2 3 43a:4 47:3 2:4 ba7:38 7 10:17 9:7 1:7 1:7 1:7 1:7 1:7 1:7 1:7 50 1d5:3 19:9 7:5
     2:5 4:56 6:3 1:5a 1:4 5:2b 1:5e 11:20 30:10 200:19c0 40:568d 43:2e 2:10d 3:10 a:2 42 10 20:50
     27:9 68 6 67 3:7 1:3 1:4 1:17 1d:34 e:32 3e:6 3 1:2 b:1c a:17 19:1d 7:2f 1c 10:5 1:a a:5 1:29
     17:3 1:8 14:17 3 3:32 1 3:2 2:5 2 1 18:3 2:b 7:3 c:6 2:6 2:6 9:7 1:7 91:23 1d:2ba4 c:17 4:31
     2104:16e 2:6a 43 1:a 1:d 1:5 1 1:2 1:2 1:6c 21:16b 12:40 2:36 28:c 74:5 1:87 69:38 2:1f 3:6
     2:6 2:6 2:3 23:c 1:1a 1:13 1:2 1:f 2:e 22:7b 45:35 10b:1d 3:31 2f:20 d:1e 5:26 a:1e 2:24 4:8
     1:5 7a:4e 62:28 8:34 5c:34 c:137 9:16 a:8 19:2 7d:6 2 1:2c 1:2 3 2:17 a:17 9:1f 41:13 1:2 a:16
     a:1a 46:38 6:2 40 f:4 1:3 1:1d 2a:1d 3:1d 23:8 1:1c 1b:36 a:16 a:13 d:12 6e:49 b7:24 26:6 1f
     110:2a 6:2 10:3 3b:1d a 8:16 2a:12 2e:15 1b:17 c:35 39:2 2 d:2d 20:19 1a:24 1d 2 8:23 3 c:30
     e:4 15 1 23:12 1:19 13:2 3f:7 1 1:4 1:f 1:a 7:2f 26:8 2:2 2:16 1:7 1:2 1:5 3 12 c:5 1e:a 1 2
     1:26 1 19 1 2c:35 12:4 14:3 1e:30 14:2 1 b8:2f 29:4 24:30 14 3b:2b d 47:1b 25:7 b9:2c d3:8 2
     2:8 1:2 1:18 f 1 5e:8 2:27 10 1 1c a:28 7 15 b:2e 13 12:49 c7:21 1f:9 1:25 11 31:1e 70:7 1:2
     1:26 15 19:6 1:2 1:20 e 147:13 f 1:d 1:22 7c 4f:39a 66:6f 11:c4 a4c:61 f:430 11:6 19:f9b 5:247
     1ab9:1e 6e2:239 7:1f 11:4f 11:1e 12:30 10:4 1f:15 5:13 1b0:2d 193:4b 5 42:d 40:2 1 1c:17f8
     8:4d6 29:a 22e7:4 1:7 1:2 1:123 f 1d:3 2 e:4 8:18c 904:6b 5:d 3:9 7:a 2270 1f5:2d a:7 10
     141:1e 12:2c 1e4:1c e4:1e 2 1ef:7 1:4 1:2 1:f 1:c5 86 4b4:4 1:1b 1:2 1 2 1:a 1:4 1 1 6 4 1 1
     1:3 1:2 1 2 1 1 1 1 1:2 1 2:4 1:7 1:4 1:4 1 1:a 1:11 5:3 1:5 1:11 1144:a6e0 20:103a 6:de
     2:1682 e:1d31 f:26e 9a2:21e 5e2:134b 5:1060"⟩,
  ⟨["sc", "scontinue"],
    "2c:2 c:2 342 1de ae:2 1ea 1009 5 80a:2 fec ce0e:2 1:2 1c:2 1d:2 2:2 2 a a8:2 c:2 48"⟩,
  ⟨["st", "sterm"],
    "21 1d 549 93:3 b4 2b:3 f6 3d 1 3:2 125:2 6e4:2 316 4:2 305 c6:2 9d:2 2d 5 13a:2 162:4 a2:2 a:2
     2:2 1d:3 bb:2 41:2 3bc:2 9:3 caf:3 132 d 16:2 1ad 74fc 10e:2 e3 3 17e:2 56:2 5f 98:2 93:3 90:2
     f9 5226 2:2 3f:2 a9 1d 41 af4:2 4fd:5 2c:4 bd:2 75:4 7f:3 81:2 6 10:2 58:2 1:2 6c 12a:2 75:2
     175:2 5:f 69:2 f9:3 205 1 fb:2 57:2 1a4:2 2b4:2 4a:2 4b29:2 85 41:2 b 229:2 128 4e06 1de8"⟩,
  ⟨["se", "sep"],
    "85 1fa2:2"⟩,
  ⟨["sp"],
    "9 1:2 13 7f 15df 97f:b 24 2f fa0"⟩,
  ⟨["up", "upper"],
    "41:1a 65:17 1:7 21 1 1 1 1 1 1 1 1 1 1 1 1 1 1 1 1 1 1 1 1 1 1 1 1 1 1 1 2 1 1 1 1 1 1 1 2 1 1
     1 1 1 1 1 1 1 1 1 1 1 1 1 1 1 1 1 1 1 1 1:2 1 1 3:2 1 1:2 1:3 2:4 1:2 1:3 3:2 1:2 1 1 1:2 1 2
     1:2 1:3 1 1:2 3 7:2 1:2 1:2 1 1 1 1 1 1 1 1 2 1 1 1 1 1 1 1 1 2:2 1 1:3 1 1 1 1 1 1 1 1 1 1 1
     1 1 1 1 1 1 1 1 1 1 1 1 1 1 1 1 1 1 7:2 1:2 2 1:4 1 1 1 1 121 1 3 8 6 1:3 1 1:2 1:11 1:9 23
     2:3 3 1 1 1 1 1 1 1 1 1 1 1 5 2 1:2 2:33 30 1 1 1 1 1 1 1 1 1 1 1 1 1 1 1 1 9 1 1 1 1 1 1 1 1
     1 1 1 1 1 1 1 1 1 1 1 1 1 1 1 1 1 1 1:2 1 1 1 1 1 1 2 1 1 1 1 1 1 1 1 1 1 1 1 1 1 1 1 1 1 1 1
     1 1 1 1 1 1 1 1 1 1 1 1 1 1 1 1 1 1 1 1 1 1 1 1 1 1 1 2:26 b49:26 1 5 2d2:56 893 176 1 1 1 1 1
     1 1 1 1 1 1 1 1 1 1 1 1 1 1 1 1 1 1 1 1 1 1 1 1 1 1 1 1 1 1 1 1 1 1 1 1 1 1 1 1 1 1 1 1 1 1 1
     1 1 1 1 1 1 1 1 1 1 1 1 1 1 1 1 1 1 1 1 1 1 9 1 1 1 1 1 1 1 1 1 1 1 1 1 1 1 1 1 1 1 1 1 1 1 1
     1 1 1 1 1 1 1 1 1 1 1 1 1 1 1 1 1 1 1 1 1 1 1 1 9:8 8:6 a:8 8:8 8:6 b 1 1 1 8:8 18:8 8:8 8:8
     8:5 b:5 b:4 c:5 b:5 105 4 3:3 2:3 2 3:5 6 1 1 1:4 2:4 a:2 5 1a:10 13 332:1a 730:30 30 1:3 2 1
     1 1:4 1 2 8:3 1 1 1 1 1 1 1 1 1 1 1 1 1 1 1 1 1 1 1 1 1 1 1 1 1 1 1 1 1 1 1 1 1 1 1 1 1 1 1 1
     1 1 1 1 1 1 1 1 1 8 1 4 794d 1 1 1 1 1 1 1 1 1 1 1 1 1 1 1 1 1 1 1 1 1 1 13 1 1 1 1 1 1 1 1 1
     1 1 1 1 87 1 1 1 1 1 1 3 1 1 1 1 1 1 1 1 1 1 1 1 1 1 1 1 1 1 1 1 1 1 1 1 1 1 1 1 1 1 a 1 1:2 1
     1 1 1 4 1 2 1 3 1 1 1 1 1 1 1 1 1 1:5 1:5 1 1 1 1 1 1 1 1:4 1 1:2 3 5 1 1 1 18 572b:1a 4c5:28
     88:24 9c:b 1:f 1:7 1:2 6ea:33 9d:16 b3a:20 5580:20 65a0:1a 1a:1a 1a:1a 1a 1:2 2 2:2 2:4 1:8
     1a:1a 1a:2 1:4 2:8 1:7 1b:2 1:4 1:5 1 3:7 1b:1a 1a:1a 1a:1a 1a:1a 1a:1a 1a:1a 1e:19 21:19
     21:19 21:19 21:19 21 1135:22 80e:1a 6:1a 6:1a"⟩]

end Unicode
end LineSieve
