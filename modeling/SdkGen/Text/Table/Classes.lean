/-!
# Character classes

The characters outside ASCII that may stand in a word, and those that may stand in a quoted text as they
are.
-/

namespace SdkGen.Text.Table

/-- Letters and numbers of every script. -/
def wordRows : List String :=
  ["aa.1 7.2 1.1 3.2 1.3 1.17 1.1f 1.1ca 4.c e.5 7.1 1.1 81.5 1.2 2.4 1.1 6.1 1.3 1.1 1.14 1.53",
   "1.8b 8.a6 1.26 2.1 6.29 47.1b 4.4 2d.2b 15.a 4.2 1.63 1.1 f.2 7.f 2.1 10.1 1.1e 1d.59 b.1",
   "e.2b 9.2 4.1 5.16 4.1 9.1 3.1 17.19 7.b 5.18 1.6 11.2a 3a.36 3.1 12.1 7.a 4.a 1.10 4.8 2.2",
   "2.16 1.7 1.1 3.4 3.1 10.1 d.2 1.3 4.c 2.6 2.1 8.6 4.2 2.16 1.7 1.2 1.2 1.2 1f.4 1.1 7.a 2.3",
   "10.9 1.3 1.16 1.7 1.2 1.5 3.1 12.1 f.2 4.a 9.1 b.8 2.2 2.16 1.7 1.2 1.5 3.1 1e.2 1.3 4.a 1.7",
   "b.1 1.6 3.3 1.4 3.2 1.1 1.2 3.2 3.3 3.c 16.1 15.d 12.8 1.3 1.17 1.10 3.1 1a.3 2.1 2.2 4.a",
   "8.7 1.1 4.8 1.3 1.17 1.a 1.5 3.1 1f.2 1.2 4.a 1.2 11.9 1.3 1.29 2.1 10.1 5.3 1.a 4.13 1.6",
   "5.12 3.18 1.9 1.1 2.7 1f.a 11.30 1.2 c.7 9.a 27.2 1.1 1.5 1.18 1.1 1.a 1.2 9.1 2.5 1.1 9.a",
   "2.4 20.1 1f.14 c.8 1.24 1b.5 73.2b 14.b 6.6 4.4 3.1 3.2 7.3 4.d c.1 1.a 6.26 1.1 5.1 2.2b",
   "1.14d 1.4 2.7 1.1 1.4 2.29 1.4 2.21 1.4 2.7 1.1 1.4 2.f 1.39 1.4 2.43 e.14 3.10 10.56 2.6",
   "3.26c 2.11 1.1a 5.4b 3.b 7.12 d.13 e.12 e.d 1.3 f.34 23.1 4.1 3.a 6.a 16.a 6.59 7.5 2.22 1.1",
   "5.46 a.1f 27.28 2.5 b.2c 4.1a 6.b 25.17 9.35 2b.a 6.a d.1 5d.2f 11.8 3.a 29.1e d.38 1a.24",
   "1c.a 3.31 2.9 7.2b 2.3 29.4 1.6 1.2 3.1 5.c0 40.116 2.6 2.26 2.6 2.8 1.1 1.1 1.1 1.1f 2.35",
   "1.7 1.1 3.3 1.7 3.4 2.6 4.d 5.3 1.7 73.2 2.6 5.b 6.d 65.1 4.1 2.a 1.1 3.5 6.1 1.1 1.1 1.4",
   "1.b 2.4 5.5 4.1 1.3a 2d6.3c 4e.16 276.1e 46c.e5 6.4 3.2 9.1 2.26 1.1 5.1 2.38 7.1 10.17 9.7",
   "1.7 1.7 1.7 1.7 1.7 1.7 1.7 50.1 1d5.3 19.9 7.5 2.5 4.56 6.3 1.5a 1.4 5.2b 1.5e 3.4 a.20",
   "30.10 20.a 1e.8 1.f 20.a 27.f 140.19c0 40.568d 43.2e 2.10d 3.1c 14.2f 10.1f 2.50 27.9 2.67",
   "2.40 5.2 1.1 1.5 18.10 1.3 1.4 1.17 d.6 a.34 e.32 1c.a 18.6 3.1 1.2 1.26 a.17 19.1d 7.2f",
   "1c.b 6.5 1.19 1.29 17.3 1.8 4.a 6.17 3.1 3.32 1.1 3.2 2.5 2.1 1.1 18.3 2.b 7.3 c.6 2.6 2.6",
   "9.7 1.7 1.2b 1.e 6.73 d.a 6.2ba4 c.17 4.31 2104.16e 2.6a 26.7 c.5 5.1 1.a 1.d 1.5 1.1 1.2",
   "1.2 1.6c 21.16b 12.40 2.36 28.c 74.5 1.87 13.a 7.1a 6.1a b.59 3.6 2.6 2.6 2.3 23.c 1.1a 1.13",
   "1.2 1.f 2.e 22.7b c.2d c.39 11.2 f4.1d 3.31 10.1b 4.24 9.1e 5.26 a.1e 2.24 4.8 1.5 2a.9e 2.a",
   "6.24 4.24 4.28 8.34 c.b 1.f 1.7 1.2 1.b 1.f 1.7 1.2 43.137 9.16 a.8 18.6 1.2a 1.9 45.6 2.1",
   "1.2c 1.2 3.1 2.17 2.1f 2.26 8.9 30.13 1.2 5.21 4.1a 46.38 4.14 2.2f f.4 1.3 1.1d a.9 17.1f",
   "1.20 20.8 1.1c 6.5 10.36 a.16 2.1b 5.1a 17.7 50.49 37.33 d.33 7.2a c.a 126.1f 1.2a 6.2 4e.28",
   "8.16 b.4 1b.12 2e.1c 14.17 c.35 1a.1e 1.2 2.1 d.2d 20.19 7.a 9.24 f.a 4.1 2.1 8.23 3.1 c.30",
   "e.4 b.b 1.1 4.14 b.12 1.19 54.7 1.1 1.4 1.f 1.a 7.2f 11.a b.8 2.2 2.16 1.7 1.2 1.5 3.1 12.1",
   "c.5 9e.35 12.4 5.a 5.3 1e.30 14.2 1.1 8.a a6.2f 29.4 24.30 14.1 b.a 26.2b d.1 7.a 36.1b 15.c",
   "4.7 b9.2c 74.53 c.8 2.1 2.8 1.2 1.18 f.1 1.1 e.a 46.8 2.27 10.1 1.1 1c.1 a.28 7.1 15.1 b.2e",
   "13.1 12.49 107.9 1.25 11.1 f.1d 5.1e 70.7 1.2 1.26 15.1 9.a 6.6 1.2 1.20 e.1 7.a 136.13 bd.1",
   "f.15 2b.39a 66.6f 11.c4 a4c.61 f.42f fd1.247 21b9.239 7.1f 1.a 6.4f 1.a 6.1e 12.30 10.4 c.a",
   "1.7 1.15 5.13 2b0.57 69.4b 5.1 42.d 40.2 1.1 1c.17f8 8.4d6 2a.9 22e7.4 1.7 1.2 1.123 2d.3",
   "11.4 8.18c 904.6b 5.d 3.9 7.a 1646.14 6c.19 87.55 1.47 1.2 2.1 2.2 2.4 1.c 1.1 1.7 1.41 1.4",
   "2.8 1.7 1.1c 1.4 1.5 1.1 3.7 1.154 2.19 1.19 1.1f 1.19 1.1f 1.19 1.1f 1.19 1.1f 1.19 1.8",
   "2.32 700.1f 1e1.2d a.7 2.a 4.1 141.1e 12.2c 4.a 4e6.7 1.4 1.2 1.f 1.c5 2.9 30.44 7.1 4.a",
   "317.3b 1.3 1.4 4c.2d 1.f c2.4 1.1b 1.2 1.1 2.1 1.a 1.4 1.1 1.1 6.1 4.1 1.1 1.1 1.3 1.2 1.1",
   "2.1 1.1 1.1 1.1 1.1 1.2 1.1 2.4 1.7 1.4 1.4 1.1 1.a 1.11 5.3 1.5 1.11 244.d ae3.a 406.a6e0",
   "20.1039 7.de 2.1682 e.1d31 c1f.21e 5e2.134b"]

/-- Characters that are shown as they are. -/
def printableRows : List String :=
  ["a1.c 1.2ca 2.6 4.7 1.1 1.14 1.18d 1.26 2.32 2.3 1.37 8.1b 4.6 11.16 1.c0 1.30 2.3b 2.65 e.3b",
   "2.31 2.f 1.1c 2.1 1.b 5.1f 9.4a 1.a1 1.8 2.2 2.16 1.7 1.1 3.4 2.9 2.2 2.4 8.1 4.2 1.5 2.19",
   "2.3 1.6 4.2 2.16 1.7 1.2 1.2 1.2 2.1 1.5 4.2 2.3 3.1 7.4 1.1 7.11 a.3 1.9 1.3 1.16 1.7 1.2",
   "1.5 2.a 1.3 1.3 2.1 f.4 2.c 7.7 1.3 1.8 2.2 2.16 1.7 1.2 1.5 2.9 2.2 2.3 7.3 4.2 1.5 2.12",
   "a.2 1.6 3.3 1.4 3.2 1.1 1.2 3.2 3.3 3.c 4.5 3.3 1.4 2.1 6.1 e.15 5.d 1.3 1.17 1.10 2.9 1.3",
   "1.4 7.2 1.3 2.1 2.4 2.a 7.16 1.3 1.17 1.a 1.5 2.9 1.3 1.4 7.2 6.2 1.4 2.a 1.2 d.d 1.3 1.33",
   "1.3 1.6 4.10 2.1a 1.3 1.12 3.18 1.9 1.1 2.7 3.1 4.6 1.1 1.8 6.a 2.3 c.3a 4.1d 25.2 1.1 1.5",
   "1.18 1.1 1.17 2.5 1.1 1.6 2.a 2.4 20.48 1.24 4.27 1.24 1.f 1.d 25.c6 1.1 5.1 2.179 1.4 2.7",
   "1.1 1.4 2.29 1.4 2.21 1.4 2.7 1.1 1.4 2.f 1.39 1.4 2.43 2.20 3.1a 6.56 2.6 2.280 1.1c 3.59",
   "7.16 9.18 9.14 c.d 1.3 1.2 c.5e 2.a 6.a 6.e 1.b 6.59 7.2b 5.46 a.1f 1.c 4.c 4.1 3.2a 2.5",
   "b.2c 4.1a 6.b 3.3e 2.41 1.1d 2.b 6.a 6.e 2.1f 31.4d 3.2f 1.74 8.3c 3.f 3.3c 7.2b 2.b 8.2b",
   "5.216 2.6 2.26 2.6 2.8 1.1 1.1 1.1 1.1f 2.35 1.f 1.e 2.6 1.13 2.3 1.9 11.18 8.2f 11.2 2.1b",
   "1.d 3.21 f.21 f.8c 4.297 19.b 15.714 2.20 1.15d 5.2d 1.1 5.1 2.38 7.2 e.18 9.7 1.7 1.7 1.7",
   "1.7 1.7 1.7 1.7 1.7e 22.1a 1.59 c.d6 1a.c 5.3f 1.56 2.67 5.2b 1.5e 1.54 c.2f 1.726d 3.37",
   "9.15c 14.b8 8.cb 5.2 1.1 1.5 18.3b 3.a 6.38 8.46 8.c 6.74 b.1e 3.4e 1.b 4.21 1.37 9.e 2.a",
   "2.67 18.1c a.6 2.6 2.6 9.7 1.7 1.3c 4.7e 2.a 6.2ba4 c.17 4.31 2104.16e 2.6a 26.7 c.5 5.1a",
   "1.5 1.1 1.2 1.2 1.7d 10.1bd 2.36 7.1 20.2a 6.33 1.13 1.4 4.5 1.87 4.be 3.6 2.6 2.6 2.3 3.7",
   "1.7 d.2 2.c 1.1a 1.13 1.2 1.f 2.e 22.7b 5.3 4.2d 3.58 1.d 3.1 2f.2e 82.1d 3.31 f.1c 4.24",
   "9.1e 5.2b 5.1e 1.25 4.e 2a.9e 2.a 6.24 4.24 4.28 8.34 b.c 1.f 1.7 1.2 1.b 1.f 1.7 1.2 43.137",
   "9.16 a.8 18.6 1.2a 1.9 45.6 2.1 1.2c 1.2 3.1 2.17 1.48 8.9 30.13 1.2 5.21 3.1b 5.1 40.38",
   "4.14 2.32 1.2 5.8 1.3 1.1d 2.3 4.a 7.9 7.40 20.27 4.c 9.36 3.1d 2.1b 5.1a 7.4 c.7 50.49",
   "37.33 d.33 7.2e 8.a 126.1f 1.2a 1.3 2.2 4e.28 8.2a 16.1a 26.1c 14.17 9.4e 4.24 9.3e 1.5 d.19",
   "7.a 6.35 1.12 8.27 9.60 1.14 b.12 1.2c 41.7 1.1 1.4 1.f 1.b 6.3b 5.a 6.4 1.8 2.2 2.16 1.7",
   "1.2 1.5 1.a 2.2 2.3 2.1 6.1 5.7 2.7 3.5 8b.5c 1.5 1e.48 8.a a6.36 2.26 22.45 b.a 6.d 13.3a",
   "6.a 36.1b 2.f 4.17 b9.3c 64.53 c.8 2.1 2.8 1.2 1.1e 1.2 2.c 9.a 46.8 2.2e 2.b 1b.48 8.53",
   "d.49 107.9 1.2d 1.e a.1d 3.20 2.16 1.e 49.7 1.2 1.2c 3.1 1.2 1.9 8.a 6.6 1.2 1.25 1.2 1.6",
   "7.a 136.19 b7.1 f.32 d.39b 66.6f 1.5 b.c4 a4c.63 d.42f fd1.247 21b9.239 7.1f 1.a 4.51 1.a",
   "6.1e 2.6 a.46 a.a 1.7 1.15 5.13 2b0.5b 65.4b 4.39 7.11 40.5 b.2 e.17f8 8.4d6 2a.9 22e7.4 1.7",
   "1.2 1.123 2d.3 11.4 8.18c 904.6b 5.d 3.9 7.a 2.4 1260.2e 2.17 9.74 3c.f6 a.27 2.4a 8.70",
   "15.46 9a.14 c.57 9.19 87.55 1.47 1.2 2.1 2.2 2.4 1.c 1.1 1.7 1.41 1.4 2.8 1.7 1.1c 1.4 1.5",
   "1.1 3.7 1.154 2.124 2.2be f.5 1.f 450.1f e1.7 1.11 2.7 1.2 1.5 d5.2d 3.e 2.a 4.2 140.1f",
   "11.3a 5.1 4e0.7 1.4 1.2 1.f 1.c5 2.10 29.4c 4.a 4.2 311.44 4c.3d c2.4 1.1b 1.2 1.1 2.1 1.a",
   "1.4 1.1 1.1 6.1 4.1 1.1 1.1 1.3 1.2 1.1 2.1 1.1 1.1 1.1 1.1 1.2 1.1 2.4 1.7 1.4 1.4 1.1 1.a",
   "1.11 5.3 1.5 1.11 34.2 10e.2c 4.64 c.f 2.f 1.f 1.25 a.ae 38.1d d.2c 4.9 7.2 e.6 9a.3d8 5.10",
   "3.d 3.74 c.59 7.c 4.1 f.c 4.38 8.a 6.28 8.1e 2.2 4e.154 c.e 2.5 3.5 3.7 9.1d 3.b 5.6 a.a 6.8",
   "8.7 9.93 1.37 25.a 406.a6e0 20.1039 7.de 2.1682 e.1d31 c1f.21e 5e2.134b aedb5.f0"]

end SdkGen.Text.Table
