/-!
# Characters of labels

How characters are folded, left out or barred where the labels of domains are compared, which of them are
written from the right and which from the left, and how far decomposition goes there. The rows are read by
`CharMap.ofRows` and `CharSet.ofRows`.
-/

namespace SdkGen.Text.Table

/-- Characters that are folded to something else than their lower case. -/
def foldRows : List String :=
  ["b5,3bc 29,73.73 50,69.307 18,2bc.6e 35,73 70,6a.30c 154,3b9 34,20.3b9 15,3b9.308.301",
   "1f,3c5.308.301 11,3c3 d,3b2 0,3b8 0,3c5 0,3cd 0,3cb 0,3c6 0,3c0 19,3ba 0,3c1 0,3c3 2,3b5",
   "191,565.582 190e,68.331 0,74.308 0,77.30a 0,79.30a 0,61.2be 0,1e61 b4,3c5.313 1,3c5.313.300",
   "1,3c5.313.301 1,3c5.313.342 29,1f00.3b9 0,1f01.3b9 0,1f02.3b9 0,1f03.3b9 0,1f04.3b9",
   "0,1f05.3b9 0,1f06.3b9 0,1f07.3b9 0,1f00.3b9 0,1f01.3b9 0,1f02.3b9 0,1f03.3b9 0,1f04.3b9",
   "0,1f05.3b9 0,1f06.3b9 0,1f07.3b9 0,1f20.3b9 0,1f21.3b9 0,1f22.3b9 0,1f23.3b9 0,1f24.3b9",
   "0,1f25.3b9 0,1f26.3b9 0,1f27.3b9 0,1f20.3b9 0,1f21.3b9 0,1f22.3b9 0,1f23.3b9 0,1f24.3b9",
   "0,1f25.3b9 0,1f26.3b9 0,1f27.3b9 0,1f60.3b9 0,1f61.3b9 0,1f62.3b9 0,1f63.3b9 0,1f64.3b9",
   "0,1f65.3b9 0,1f66.3b9 0,1f67.3b9 0,1f60.3b9 0,1f61.3b9 0,1f62.3b9 0,1f63.3b9 0,1f64.3b9",
   "0,1f65.3b9 0,1f66.3b9 0,1f67.3b9 2,1f70.3b9 0,3b1.3b9 0,3ac.3b9 1,3b1.342 0,3b1.342.3b9",
   "4,3b1.3b9 1,3b9 3,1f74.3b9 0,3b7.3b9 0,3ae.3b9 1,3b7.342 0,3b7.342.3b9 4,3b7.3b9",
   "5,3b9.308.300 0,3b9.308.301 2,3b9.342 0,3b9.308.342 a,3c5.308.300 0,3c5.308.301 0,3c1.313",
   "1,3c5.342 0,3c5.308.342 a,1f7c.3b9 0,3c9.3b9 0,3ce.3b9 1,3c9.342 0,3c9.342.3b9 4,3c9.3b9",
   "ab,72.73 59,63 0,b0.63 3,25b 1,b0.66 1,68 0,68 0,68 2,69 0,69 0,6c 2,6e 0,6e.6f 2+3,70 0,72",
   "0,72 2,73.6d 0,74.65.6c 0,74.6d 1,7a 3,7a 3+2,62 2+2,65 1,6d a,3b3 0,3c0 5,64 122b,68.70.61",
   "1,61.75 1,6f.76 a,70.61 0,6e.61 0,3bc.61 0,6d.61 0,6b.61 0,6b.62 0,6d.62 0,67.62 2,70.66",
   "0,6e.66 0,3bc.66 3,68.7a 0,6b.68.7a 0,6d.68.7a 0,67.68.7a 0,74.68.7a 14,70.61 0,6b.70.61",
   "0,6d.70.61 0,67.70.61 7,70.76 0,6e.76 0,3bc.76 0,6d.76 0,6b.76 0,6d.76 0,70.77 0,6e.77",
   "0,3bc.77 0,6d.77 0,6b.77 0,6d.77 0,6b.3c9 0,6d.3c9 1,62.71 2,63.2215.6b.67 0,63.6f.2e",
   "0,64.62 0,67.79 1,68.70 1,6b.6b 0,6b.6d 8,70.68 1,70.70.6d 0,70.72 1,73.76 0,77.62",
   "c722,66.66 0,66.69 0,66.6c 0,66.66.69 0,66.66.6c 0,73.74 0,73.74 c,574.576 0,574.565",
   "0,574.56b 0,57e.576 0,574.56d d8e8+1a,61 1a+1a,61 1a+1a,61 1a,61 1+2,63 2,67 2+2,6a 2+4,6e",
   "1+8,73 1a+1a,61 1a+2,61 1+4,64 2+8,6a 1+7,73 1b+2,61 1+4,64 1+5,69 1,6f 3+7,73 1b+1a,61",
   "1a+1a,61 1a+1a,61 1a+1a,61 1a+1a,61 1a+1a,61 1e+11,3b1 0,3b8 0+7,3c3 12,3c3 e+11,3b1 0,3b8",
   "0+7,3c3 12,3c3 e+11,3b1 0,3b8 0+7,3c3 12,3c3 e+11,3b1 0,3b8 0+7,3c3 12,3c3 e+11,3b1 0,3b8",
   "0+7,3c3 12,3c3"]

/-- Characters that are left out. -/
def droppedRows : List String :=
  ["ad.1 2a1.1 14b6.1 4.3 7fd.3 52.1 dd9f.10 ef.1"]

/-- Characters that no label may hold. -/
def barredRows : List String :=
  ["80.21 29f.2 39b.1 31.1 f70.1 18d.1 7f1.10 18.8 2f.5 6.6 f80.c 4.1 a7ff.2100 4d0.20 10f.1",
   "f9.7 d173.8 2e83.2 fffe.2 fffe.2 fffe.2 fffe.2 fffe.2 fffe.2 fffe.2 fffe.2 fffe.2 fffe.2",
   "fffe.2 fffe.2 1.1 1e.60 ff7e.20002"]

/-- Characters that are written from the right to the left. -/
def fromRightRows : List String :=
  ["5be.1 1.1 2.1 c.1b 5.5 26.1 3.1 1.1a 5.b 22.3 1.65 7.1 7.2 13.5 1.e 2.1 1.1b 53.26 b.1",
   "185d.1 db0d.1 1.a 1.d 1.5 1.1 1.2 1.2 1.6c 21.16b 12.40 2.36 28.d 73.5 1.87"]

/-- Characters that are written from the left to the right. -/
def fromLeftRows : List String :=
  ["41.1a 6.1a 2f.1 a.1 4.1 5.17 1.1f 1.129 1.12 1c.5e 2.9 2.7 e.2 e.5 9.1 8b.1 b.1 1.3 1.1 1.14",
   "1.2c 1.26 a.83 7.45 1.26 2.2 6.10 21.26 2.7 1.27 1.1 379.1 1.35 3.4 8.4 3.1 7.a 2.d 11.2 1.8",
   "2.2 2.16 1.7 1.1 3.4 4.3 6.2 2.2 a.1 4.2 1.3 4.c 2.7 a.6 4.2 2.16 1.7 1.2 1.2 1.2 4.3 18.4",
   "1.1 7.a 2.3 e.1 1.7 1.1 1.3 1.16 1.7 1.2 1.5 3.4 8.1 1.2 3.1 f.1 5.a 12.2 1.8 2.2 2.16 1.7",
   "1.2 2.4 3.2 1.1 6.2 2.2 a.1 4.2 1.3 4.b 12.1 1.6 3.3 1.4 3.2 1.1 1.2 3.2 3.3 3.8 1.3 4.2 1.2",
   "3.3 1.3 a.1 f.c e.3 1.8 1.3 1.17 1.a 1.5 7.4 1b.2 4.a 12.2 1.8 1.3 1.17 1.a 1.5 4.1 1.5 2.2",
   "1.2 9.2 7.1 1.2 4.a 12.2 1.8 1.3 1.17 1.10 4.3 5.3 1.3 a.1 8.2 4.a 12.2 1.12 3.18 1.9 1.1",
   "2.7 8.3 6.8 12.3 c.30 1.2 c.7 8.d 25.2 1.1 2.2 1.1 2.1 6.4 1.7 1.3 1.1 1.1 2.2 1.4 1.2 9.1",
   "2.5 1.1 9.a 2.2 22.18 2.1b 1.1 1.1 5.a 1.22 14.1 5.1 2.4 32.8 1.6 2.1 30.22 1.5 1.2 1.1 4.1",
   "6.1 7.18 48.26 a.29 2.1 4.5a 5.44 5.52 6.7 1.3f 1.1 1.4 2.7 1.1 1.4 2.27 1.1 1.4 2.1f 1.1",
   "1.4 2.7 1.1 1.4 2.7 1.7 1.17 1.1f 1.1 1.4 2.7 1.27 1.13 6.1c 23.55 c.276 a.1a 5.51 f.d 1.4",
   "e.12 3.2 9.12 e.d 1.3 f.37 7.8 1.2 b.7 1.1 3.a 26.a 6.58 8.29 557.9c 4.5a 6.16 2.6 2.26 2.6",
   "2.8 1.1 1.1 1.1 1.1f 2.35 1.7 1.1 3.3 1.7 3.4 2.6 4.d 5.3 1.7 11.1 62.1 d.1 82.1 4.1 2.a 1.1",
   "3.5 6.1 1.1 1.1 1.4 1.3 1.7 3.3 5.5 16.24 1b2.45 1a.1 106.4e b1b.3 19.9 7.5 2.5 4.56 6.3",
   "1.5a 1.4 5.28 4.5e 1.28 38.2d 3.24 1c.1c 3.32 f.c 4.2f 1.77 4.63 2.1f 1.19b6 4a.51a6 5a.48d",
   "773.2ba4 5c.222e 2.3b 95.7 c.5 409.1a 6.1a b.59 3.6 2.6 2.6 2.3 323.1f 1.4 c.1b b5.26 2.26",
   "cbb2.f6 a.27 3.3d 3.9 10.2 7.1e 4.30 222.55 1.47 1.2 2.1 2.2 2.4 1.c 1.1 1.4 1.2 1.41 1.4",
   "2.8 1.7 1.1c 1.4 1.5 1.1 3.7 1.152 4.122 2836.a6d7 5129.21e c05e2.fffe 2.fffe"]

/-- Characters that are too young to be decomposed. -/
def youngRows : List String :=
  ["3f9.1 d02.1 a09.1 1.1 1.1 1.1 1.1 3.1 28.1 1.1 2.2 1.1 1e8.3 1.b 1.12 1.1c d.1 22.25 2d0.d",
   "9e.2 13.3 36.1 af2.2 f1.1 4ad.2 25.4 8.1 2b.3 4d.4 2f.1 77.4 63.2 1f.1 729c.2 d2.1 81.3 3.2",
   "362.4 9.1 4ec4.2 3b.3 2.6a 336.a 2d.2 938.5 1.2a 1.9 8df.1 1.1 e.1 82.2 21b.2 16e.2 1.1 fb.2",
   "37c.1 bb88.1 1e2.2 124.2 1634.4 1.1b 1.2 1.1 2.1 1.a 1.4 1.1 1.1 6.1 4.1 1.1 1.1 1.3 1.2 1.1",
   "2.1 1.1 1.1 1.1 1.1 1.2 1.1 2.4 1.7 1.4 1.4 1.1 1.a 1.11 5.3 1.5 1.11 244.b 5.1f 1.20 1a.3",
   "23.1 6f.3 d.2c 4.9 7.2 99e.a"]

/-- Characters whose decompositions were mended later, as they were before. -/
def mendedRows : List String :=
  ["2f868,2136a b,5f33 aa,43ab 3f,7aae 5f,4d57"]

end SdkGen.Text.Table
