/-!
# Widths of characters

The characters outside ASCII that take no cell of a screen, those that take two, and those that take two
once they are shown as pictures. The rows are read by `CharSet.ofRows`.
-/

namespace SdkGen.Text.Table

/-- Characters that take no cell. -/
def flatRows : List String :=
  ["80.20 260.70 113.7 107.2d 1.1 1.2 1.2 1.1 48.b 1.1 2e.15 10.1 65.7 2.6 2.2 1.4 23.1 1e.1b",
   "5b.b 3a.9 9.1 18.4 1.9 1.3 1.5 2b.3 3b.9 2a.18 1.21 36.3 1.12 1.7 a.2 1d.3 38.1 1.7 2.2 2.3",
   "9.1 a.2 1a.1 2.3 38.1 1.5 4.2 2.3 3.1 1e.2 3.1 b.3 38.1 1.8 1.3 1.3 14.2 16.6 1.3 38.1 1.7",
   "2.2 2.3 7.3 a.2 1e.1 3b.5 3.3 1.4 9.1 28.5 37.1 1.7 1.3 1.4 7.2 b.2 1d.3 38.1 1.7 1.3 1.4",
   "7.2 b.2 f.1 c.4 37.2 1.7 1.3 1.4 9.1 a.2 1d.3 46.1 4.6 1.1 1.8 12.2 3d.1 2.7 c.8 62.1 2.9",
   "b.7 49.2 1b.1 1.1 1.1 4.2 31.14 1.2 5.b 1.24 9.1 64.14 17.4 4.3 1.3 2.7 3.4 d.c 1.1 a.4",
   "c2.a0 15d.3 3b2.4 1c.3 1d.2 1e.2 40.20 9.1 2d.5 75.2 22.1 76.c 4.c db.5 39.a 1.1d 2.1 30.2e",
   "2.c 14.5 2f.11 26.9 c.3 1e.d 38.e 30.14 98.3 1.15 4.1 6.1 2.3 c6.40 20b.5 18.7 31.10 60.21",
   "bfe.3 8d.1 60.20 22a.6 69.2 c9.1 750a.4 1.a 20.2 50.2 110.1 3.1 4.1 17.5 4.1 53.2 32.12",
   "1a.12 d.1 26.8 19.d 2c.4 2f.e 24.1 43.e c.1 8.2 2d.3 32.1 1.3 2.2 5.2 1.1 29.5 5.2 ec.8 1.2",
   "2bc2.50 231e.1 2e1.10 10.10 cf.1 a0.1 4f.c 201.1 e2.1 95.5 686.3 1.2 5.4 28.3 4.1 a5.2",
   "23d.4 41.5 13d.2 4d.6 46.b 31.4 7a.3 35.f 29.1 2.2 a.4 2d.b 7.1 3d.3 24.e 10.2 2c.1 c.3 30.e",
   "8.4 1.2 5c.c 6.1 2.1 9d.c 15.4 37.2 1.7 2.2 2.3 9.1 a.2 2.7 3.5 43.9 1.1 2.1 1.4 1.5 1.1 e.2",
   "52.12 17.1 51.14 eb.7 2.9 1b.2 52.11 6a.d 65.f 100.f f5.6 1.2 2.4 1.1 1.2 8d.7 2.7 3.1 1c.a",
   "28.7 1.4 8.1 9.b 2e.10 c6.8 c7.8 1.8 52.16 1.e 7a.6 3.1 1.2 1.7 1.1 42.5 1.2 1.5 15b.4 9.2",
   "1.1 30.7 3.5 17.1 14d5.11 6.f 2cc8.12 9c0.5 3b.7 418.1 1.37 7.4 51.1 b.2 4cab.2 1.4 125c.2e",
   "2.17 21e.5 3.16 2.7 1e.4 94.3 7bb.37 4.32 8.1 e.1 16.5 1.f 550.7 1.11 2.7 1.2 1.5 64.1 a0.7",
   "177.1 3d.4 1fc.4 fe.2 f3.1 2.1 7.2 5.1 1da.7 6d.7 ab0.5 c0c00.1000"]

/-- Characters that take two cells. -/
def wideRows : List String :=
  ["1100.60 11ba.2 d.2 be.4 3.1 2.1 209.2 15.2 1a.8 10.c 2b.1 a.6 3.1 d.1 8.2 11.2 5.2 8.1 5.1",
   "15.1 7.2 1.1 4.1 2.1 7.1 4.2 1c.1 23.1 1.1 4.3 1.1 3d.3 18.1 e.1 35b.2 33.1 4.1 32a.1a 1.59",
   "c.d6 1a.3a 6.f 2.56 4.65 5.2b 1.33 1.2a 1.56 9.30 1.28 8.723d 3.37 499.1d 283.2ba4 215c.200",
   "310.a 16.23 1.13 1.4 95.60 7f.7 6ff9.4 e.5 9.1cd6 29.20 61.73 21fd.4 1.7 1.2 1.123 f.1 1d.3",
   "2.1 e.4 8.18c 2004.57 9.17 1c8d.1 ca.1 be.1 2.a 65.3 d.2c 4.9 7.2 e.6 9a.21 c.9 1.46 1.16",
   "c.2b 4.5 c.11 3.1 3.3 5.3f 1.1 1.bb 2.3f d.4 1.18 12.1 1a.2 d.1 56.55 30.46 6.1 3.3 2.4 3.4",
   "b.2 7.9 e3.c 4.1 11b.2f 1.a 1.b9 70.d 3.b 3.39 1.1 4.10 2.c 4.a 507.fffe 2.fffe"]

/-- Characters that take one cell, and two as pictures. -/
def pictureRows : List String :=
  ["23.1 6.1 5.a 6f.1 4.1 1f8d.1 c.1 d8.1 16.1 5a.6 f.2 17d.1 a6.1 1d.3 1.2 5.3 c7.1 e7.2 a.1",
   "9.1 3a.2 3.5 9.1 2.1 6.1 4.1 2.1 1.2 2.1 3.1 3.2 8.3 5.1 1.1 1c.2 2.1 1.2 1.1 12.1 2.1 13.1",
   "1.4 1.1 1.2 3.1 6.1 8.2 16.1 6.1 1.1 1.1 15.1 6.2 2.1 2.3 8.1 5.2 2.2 1.1 2.1 1.1 1.1 6.1",
   "3.1 11.2 f.1 2.1 1b.2 3c.1 192.2 1cf.3 1c668.2 c.2 1a1.1 2.9 9.1 46.1 18.2 1.3 2.2 2b.4 5.c",
   "13.1 1.1 1.1 47.1 1.1 bb.1 4b.2 24.2 2.7 d.1 2.4 2.1 14.1 2.1 8.2 9.1 5.3 c.3 8.3 2.1 1.1",
   "4.1 6.1 3.1 6.1 d0.1 1.3 10.6 3.1 6.1 2.1"]

end SdkGen.Text.Table
