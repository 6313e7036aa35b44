/-!
# Compatibility decompositions

The full compatibility decomposition of every character outside ASCII that has one, Hangul syllables
apart, and the characters with a combining class. The rows are read by `CharMap.ofRows` and
`CharSet.ofRows`.
-/

namespace SdkGen.Text.Table

/-- Characters and their full compatibility decompositions. -/
def decompositionRows : List String :=
  ["a0,20 7,20.308 1,61 4,20.304 2+2,32 0,20.301 0,3bc 2,20.327 0,31 0,6f 1,31.2044.34",
   "0,31.2044.32 0,33.2044.34 1,41.300 0,41.301 0,41.302 0,41.303 0,41.308 0,41.30a 1,43.327",
   "0,45.300 0,45.301 0,45.302 0,45.308 0,49.300 0,49.301 0,49.302 0,49.308 1,4e.303 0,4f.300",
   "0,4f.301 0,4f.302 0,4f.303 0,4f.308 2,55.300 0,55.301 0,55.302 0,55.308 0,59.301 2,61.300",
   "0,61.301 0,61.302 0,61.303 0,61.308 0,61.30a 1,63.327 0,65.300 0,65.301 0,65.302 0,65.308",
   "0,69.300 0,69.301 0,69.302 0,69.308 1,6e.303 0,6f.300 0,6f.301 0,6f.302 0,6f.303 0,6f.308",
   "2,75.300 0,75.301 0,75.302 0,75.308 0,79.301 1,79.308 0,41.304 0,61.304 0,41.306 0,61.306",
   "0,41.328 0,61.328 0,43.301 0,63.301 0,43.302 0,63.302 0,43.307 0,63.307 0,43.30c 0,63.30c",
   "0,44.30c 0,64.30c 2,45.304 0,65.304 0,45.306 0,65.306 0,45.307 0,65.307 0,45.328 0,65.328",
   "0,45.30c 0,65.30c 0,47.302 0,67.302 0,47.306 0,67.306 0,47.307 0,67.307 0,47.327 0,67.327",
   "0,48.302 0,68.302 2,49.303 0,69.303 0,49.304 0,69.304 0,49.306 0,69.306 0,49.328 0,69.328",
   "0,49.307 1,49.4a 0,69.6a 0,4a.302 0,6a.302 0,4b.327 0,6b.327 1,4c.301 0,6c.301 0,4c.327",
   "0,6c.327 0,4c.30c 0,6c.30c 0,4c.b7 0,6c.b7 2,4e.301 0,6e.301 0,4e.327 0,6e.327 0,4e.30c",
   "0,6e.30c 0,2bc.6e 2,4f.304 0,6f.304 0,4f.306 0,6f.306 0,4f.30b 0,6f.30b 2,52.301 0,72.301",
   "0,52.327 0,72.327 0,52.30c 0,72.30c 0,53.301 0,73.301 0,53.302 0,73.302 0,53.327 0,73.327",
   "0,53.30c 0,73.30c 0,54.327 0,74.327 0,54.30c 0,74.30c 2,55.303 0,75.303 0,55.304 0,75.304",
   "0,55.306 0,75.306 0,55.30a 0,75.30a 0,55.30b 0,75.30b 0,55.328 0,75.328 0,57.302 0,77.302",
   "0,59.302 0,79.302 0,59.308 0,5a.301 0,7a.301 0,5a.307 0,7a.307 0,5a.30c 0,7a.30c 0,73",
   "20,4f.31b 0,6f.31b d,55.31b 0,75.31b 13,44.5a.30c 0,44.7a.30c 0,64.7a.30c 0,4c.4a 0,4c.6a",
   "0,6c.6a 0,4e.4a 0,4e.6a 0,6e.6a 0,41.30c 0,61.30c 0,49.30c 0,69.30c 0,4f.30c 0,6f.30c",
   "0,55.30c 0,75.30c 0,55.308.304 0,75.308.304 0,55.308.301 0,75.308.301 0,55.308.30c",
   "0,75.308.30c 0,55.308.300 0,75.308.300 1,41.308.304 0,61.308.304 0,41.307.304 0,61.307.304",
   "0,c6.304 0,e6.304 2,47.30c 0,67.30c 0,4b.30c 0,6b.30c 0,4f.328 0,6f.328 0,4f.328.304",
   "0,6f.328.304 0,1b7.30c 0,292.30c 0,6a.30c 0,44.5a 0,44.7a 0,64.7a 0,47.301 0,67.301 2,4e.300",
   "0,6e.300 0,41.30a.301 0,61.30a.301 0,c6.301 0,e6.301 0,d8.301 0,f8.301 0,41.30f 0,61.30f",
   "0,41.311 0,61.311 0,45.30f 0,65.30f 0,45.311 0,65.311 0,49.30f 0,69.30f 0,49.311 0,69.311",
   "0,4f.30f 0,6f.30f 0,4f.311 0,6f.311 0,52.30f 0,72.30f 0,52.311 0,72.311 0,55.30f 0,75.30f",
   "0,55.311 0,75.311 0,53.326 0,73.326 0,54.326 0,74.326 2,48.30c 0,68.30c 6,41.307 0,61.307",
   "0,45.327 0,65.327 0,4f.308.304 0,6f.308.304 0,4f.303.304 0,6f.303.304 0,4f.307 0,6f.307",
   "0,4f.307.304 0,6f.307.304 0,59.304 0,79.304 7c,68 0,266 0,6a 0,72 0,279 0,27b 0,281 0,77",
   "0,79 1f,20.306 0,20.307 0,20.30a 0,20.328 0,20.303 0,20.30b 2,263 0,6c 0,73 0,78 0,295",
   "5b+2,300 1,313 0,308.301 2f,2b9 5,20.345 3,3b 5,20.301 0,20.308.301 0,391.301 0,b7 0,395.301",
   "0,397.301 0,399.301 1,39f.301 1,3a5.301 0,3a9.301 0,3b9.308.301 19,399.308 0,3a5.308",
   "0,3b1.301 0,3b5.301 0,3b7.301 0,3b9.301 0,3c5.308.301 19,3b9.308 0,3c5.308 0,3bf.301",
   "0,3c5.301 0,3c9.301 1,3b2 0,3b8 0,3a5 0,3a5.301 0,3a5.308 0,3c6 0,3c0 19,3ba 0+2,3c1 1,398",
   "0,3b5 3,3a3 6,415.300 0,415.308 1,413.301 3,406.308 4,41a.301 0,418.300 0,423.306 a,418.306",
   "1f,438.306 16,435.300 0,435.308 1,433.301 3,456.308 4,43a.301 0,438.300 0,443.306 17,474.30f",
   "0,475.30f 49,416.306 0,436.306 d,410.306 0,430.306 0,410.308 0,430.308 2,415.306 0,435.306",
   "2,4d8.308 0,4d9.308 0,416.308 0,436.308 0,417.308 0,437.308 2,418.304 0,438.304 0,418.308",
   "0,438.308 0,41e.308 0,43e.308 2,4e8.308 0,4e9.308 0,42d.308 0,44d.308 0,423.304 0,443.304",
   "0,423.308 0,443.308 0,423.30b 0,443.30b 0,427.308 0,447.308 2,42b.308 0,44b.308 8d,565.582",
   "9a,627.653 0,627.654 0,648.654 0,627.655 0,64a.654 4e,627.674 0,648.674 0,6c7.674 0,64a.674",
   "47,6d5.654 1,6c1.654 10,6d2.654 255,928.93c 7,930.93c 2,933.93c 23,915.93c 0,916.93c",
   "0,917.93c 0,91c.93c 0,921.93c 0,922.93c 0,92b.93c 0,92f.93c 6b,9c7.9be 0,9c7.9d7 f,9a1.9bc",
   "0,9a2.9bc 1,9af.9bc 53,a32.a3c 2,a38.a3c 22,a16.a3c 0,a17.a3c 0,a1c.a3c 2,a2b.a3c e9,b47.b56",
   "2,b47.b3e 0,b47.b57 f,b21.b3c 0,b22.b3c 36,b92.bd7 35,bc6.bbe 0,bc7.bbe 0,bc6.bd7 7b,c46.c56",
   "77,cbf.cd5 6,cc6.cd5 0,cc6.cd6 1,cc6.cc2 0,cc6.cc2.cd5 7e,d46.d3e 0,d47.d3e 0,d46.d57",
   "8d,dd9.dca 1,dd9.dcf 0,dd9.dcf.dca 0,dd9.ddf 54,e4d.e32 7f,ecd.eb2 28,eab.e99 0,eab.ea1",
   "2e,f0b 36,f42.fb7 9,f4c.fb7 4,f51.fb7 4,f56.fb7 4,f5b.fb7 c,f40.fb5 9,f71.f72 1,f71.f74",
   "0,fb2.f80 0,fb2.f71.f80 0,fb3.f80 0,fb3.f71.f80 7,f71.f80 11,f92.fb7 9,f9c.fb7 4,fa1.fb7",
   "4,fa6.fb7 4,fab.fb7 c,f90.fb5 6c,1025.102e d5,10dc a09,1b05.1b35 1,1b07.1b35 1,1b09.1b35",
   "1,1b0b.1b35 1,1b0d.1b35 3,1b11.1b35 28,1b3a.1b35 1,1b3c.1b35 2,1b3e.1b35 0,1b3f.1b35",
   "1,1b42.1b35 1e8,41 0,c6 0,42 1+2,44 0,18e 0+8,47 1,4f 0,222 0,50 0,52 0+2,54 0,57 0,61",
   "0+2,250 0,1d02 0,62 0+2,64 0,259 0+2,25b 0,67 1,6b 0,6d 0,14b 0,6f 0,254 0+2,1d16 0,70",
   "0+2,74 0,1d1d 0,26f 0,76 0,1d25 0+3,3b2 0+2,3c6 0,69 0,72 0+2,75 0+2,3b2 0,3c1 0+2,3c6 d,43d",
   "22,252 0,63 0,255 0,f0 0,25c 0,66 0,25f 0,261 0,265 0+3,268 0,1d7b 0,29d 0,26d 0,1d85 0,29f",
   "0,271 0,270 0+4,272 0,278 0+2,282 0,1ab 0+2,289 0,1d1c 0+2,28b 0,7a 0+3,290 0,3b8 40,41.325",
   "0,61.325 0,42.307 0,62.307 0,42.323 0,62.323 0,42.331 0,62.331 0,43.327.301 0,63.327.301",
   "0,44.307 0,64.307 0,44.323 0,64.323 0,44.331 0,64.331 0,44.327 0,64.327 0,44.32d 0,64.32d",
   "0,45.304.300 0,65.304.300 0,45.304.301 0,65.304.301 0,45.32d 0,65.32d 0,45.330 0,65.330",
   "0,45.327.306 0,65.327.306 0,46.307 0,66.307 0,47.304 0,67.304 0,48.307 0,68.307 0,48.323",
   "0,68.323 0,48.308 0,68.308 0,48.327 0,68.327 0,48.32e 0,68.32e 0,49.330 0,69.330",
   "0,49.308.301 0,69.308.301 0,4b.301 0,6b.301 0,4b.323 0,6b.323 0,4b.331 0,6b.331 0,4c.323",
   "0,6c.323 0,4c.323.304 0,6c.323.304 0,4c.331 0,6c.331 0,4c.32d 0,6c.32d 0,4d.301 0,6d.301",
   "0,4d.307 0,6d.307 0,4d.323 0,6d.323 0,4e.307 0,6e.307 0,4e.323 0,6e.323 0,4e.331 0,6e.331",
   "0,4e.32d 0,6e.32d 0,4f.303.301 0,6f.303.301 0,4f.303.308 0,6f.303.308 0,4f.304.300",
   "0,6f.304.300 0,4f.304.301 0,6f.304.301 0,50.301 0,70.301 0,50.307 0,70.307 0,52.307 0,72.307",
   "0,52.323 0,72.323 0,52.323.304 0,72.323.304 0,52.331 0,72.331 0,53.307 0,73.307 0,53.323",
   "0,73.323 0,53.301.307 0,73.301.307 0,53.30c.307 0,73.30c.307 0,53.323.307 0,73.323.307",
   "0,54.307 0,74.307 0,54.323 0,74.323 0,54.331 0,74.331 0,54.32d 0,74.32d 0,55.324 0,75.324",
   "0,55.330 0,75.330 0,55.32d 0,75.32d 0,55.303.301 0,75.303.301 0,55.304.308 0,75.304.308",
   "0,56.303 0,76.303 0,56.323 0,76.323 0,57.300 0,77.300 0,57.301 0,77.301 0,57.308 0,77.308",
   "0,57.307 0,77.307 0,57.323 0,77.323 0,58.307 0,78.307 0,58.308 0,78.308 0,59.307 0,79.307",
   "0,5a.302 0,7a.302 0,5a.323 0,7a.323 0,5a.331 0,7a.331 0,68.331 0,74.308 0,77.30a 0,79.30a",
   "0,61.2be 0,73.307 4,41.323 0,61.323 0,41.309 0,61.309 0,41.302.301 0,61.302.301 0,41.302.300",
   "0,61.302.300 0,41.302.309 0,61.302.309 0,41.302.303 0,61.302.303 0,41.323.302 0,61.323.302",
   "0,41.306.301 0,61.306.301 0,41.306.300 0,61.306.300 0,41.306.309 0,61.306.309 0,41.306.303",
   "0,61.306.303 0,41.323.306 0,61.323.306 0,45.323 0,65.323 0,45.309 0,65.309 0,45.303 0,65.303",
   "0,45.302.301 0,65.302.301 0,45.302.300 0,65.302.300 0,45.302.309 0,65.302.309 0,45.302.303",
   "0,65.302.303 0,45.323.302 0,65.323.302 0,49.309 0,69.309 0,49.323 0,69.323 0,4f.323 0,6f.323",
   "0,4f.309 0,6f.309 0,4f.302.301 0,6f.302.301 0,4f.302.300 0,6f.302.300 0,4f.302.309",
   "0,6f.302.309 0,4f.302.303 0,6f.302.303 0,4f.323.302 0,6f.323.302 0,4f.31b.301 0,6f.31b.301",
   "0,4f.31b.300 0,6f.31b.300 0,4f.31b.309 0,6f.31b.309 0,4f.31b.303 0,6f.31b.303 0,4f.31b.323",
   "0,6f.31b.323 0,55.323 0,75.323 0,55.309 0,75.309 0,55.31b.301 0,75.31b.301 0,55.31b.300",
   "0,75.31b.300 0,55.31b.309 0,75.31b.309 0,55.31b.303 0,75.31b.303 0,55.31b.323 0,75.31b.323",
   "0,59.300 0,79.300 0,59.323 0,79.323 0,59.309 0,79.309 0,59.303 0,79.303 6,3b1.313 0,3b1.314",
   "0,3b1.313.300 0,3b1.314.300 0,3b1.313.301 0,3b1.314.301 0,3b1.313.342 0,3b1.314.342",
   "0,391.313 0,391.314 0,391.313.300 0,391.314.300 0,391.313.301 0,391.314.301 0,391.313.342",
   "0,391.314.342 0,3b5.313 0,3b5.314 0,3b5.313.300 0,3b5.314.300 0,3b5.313.301 0,3b5.314.301",
   "2,395.313 0,395.314 0,395.313.300 0,395.314.300 0,395.313.301 0,395.314.301 2,3b7.313",
   "0,3b7.314 0,3b7.313.300 0,3b7.314.300 0,3b7.313.301 0,3b7.314.301 0,3b7.313.342",
   "0,3b7.314.342 0,397.313 0,397.314 0,397.313.300 0,397.314.300 0,397.313.301 0,397.314.301",
   "0,397.313.342 0,397.314.342 0,3b9.313 0,3b9.314 0,3b9.313.300 0,3b9.314.300 0,3b9.313.301",
   "0,3b9.314.301 0,3b9.313.342 0,3b9.314.342 0,399.313 0,399.314 0,399.313.300 0,399.314.300",
   "0,399.313.301 0,399.314.301 0,399.313.342 0,399.314.342 0,3bf.313 0,3bf.314 0,3bf.313.300",
   "0,3bf.314.300 0,3bf.313.301 0,3bf.314.301 2,39f.313 0,39f.314 0,39f.313.300 0,39f.314.300",
   "0,39f.313.301 0,39f.314.301 2,3c5.313 0,3c5.314 0,3c5.313.300 0,3c5.314.300 0,3c5.313.301",
   "0,3c5.314.301 0,3c5.313.342 0,3c5.314.342 1,3a5.314 1,3a5.314.300 1,3a5.314.301",
   "1,3a5.314.342 0,3c9.313 0,3c9.314 0,3c9.313.300 0,3c9.314.300 0,3c9.313.301 0,3c9.314.301",
   "0,3c9.313.342 0,3c9.314.342 0,3a9.313 0,3a9.314 0,3a9.313.300 0,3a9.314.300 0,3a9.313.301",
   "0,3a9.314.301 0,3a9.313.342 0,3a9.314.342 0,3b1.300 0,3b1.301 0,3b5.300 0,3b5.301 0,3b7.300",
   "0,3b7.301 0,3b9.300 0,3b9.301 0,3bf.300 0,3bf.301 0,3c5.300 0,3c5.301 0,3c9.300 0,3c9.301",
   "2,3b1.313.345 0,3b1.314.345 0,3b1.313.300.345 0,3b1.314.300.345 0,3b1.313.301.345",
   "0,3b1.314.301.345 0,3b1.313.342.345 0,3b1.314.342.345 0,391.313.345 0,391.314.345",
   "0,391.313.300.345 0,391.314.300.345 0,391.313.301.345 0,391.314.301.345 0,391.313.342.345",
   "0,391.314.342.345 0,3b7.313.345 0,3b7.314.345 0,3b7.313.300.345 0,3b7.314.300.345",
   "0,3b7.313.301.345 0,3b7.314.301.345 0,3b7.313.342.345 0,3b7.314.342.345 0,397.313.345",
   "0,397.314.345 0,397.313.300.345 0,397.314.300.345 0,397.313.301.345 0,397.314.301.345",
   "0,397.313.342.345 0,397.314.342.345 0,3c9.313.345 0,3c9.314.345 0,3c9.313.300.345",
   "0,3c9.314.300.345 0,3c9.313.301.345 0,3c9.314.301.345 0,3c9.313.342.345 0,3c9.314.342.345",
   "0,3a9.313.345 0,3a9.314.345 0,3a9.313.300.345 0,3a9.314.300.345 0,3a9.313.301.345",
   "0,3a9.314.301.345 0,3a9.313.342.345 0,3a9.314.342.345 0,3b1.306 0,3b1.304 0,3b1.300.345",
   "0,3b1.345 0,3b1.301.345 1,3b1.342 0,3b1.342.345 0,391.306 0,391.304 0,391.300 0,391.301",
   "0,391.345 0,20.313 0,3b9 0,20.313 0,20.342 0,20.308.342 0,3b7.300.345 0,3b7.345",
   "0,3b7.301.345 1,3b7.342 0,3b7.342.345 0,395.300 0,395.301 0,397.300 0,397.301 0,397.345",
   "0,20.313.300 0,20.313.301 0,20.313.342 0,3b9.306 0,3b9.304 0,3b9.308.300 0,3b9.308.301",
   "2,3b9.342 0,3b9.308.342 0,399.306 0,399.304 0,399.300 0,399.301 1,20.314.300 0,20.314.301",
   "0,20.314.342 0,3c5.306 0,3c5.304 0,3c5.308.300 0,3c5.308.301 0,3c1.313 0,3c1.314 0,3c5.342",
   "0,3c5.308.342 0,3a5.306 0,3a5.304 0,3a5.300 0,3a5.301 0,3a1.314 0,20.308.300 0,20.308.301",
   "0,60 2,3c9.300.345 0,3c9.345 0,3c9.301.345 1,3c9.342 0,3c9.342.345 0,39f.300 0,39f.301",
   "0,3a9.300 0,3a9.301 0,3a9.345 0,20.301 0,20.314 1,20 0,20 0,20 0,20 0,20 0,20 0,20 0,20 0,20",
   "0,20 0,20 6,2010 5,20.333 c,2e 0,2e.2e 0,2e.2e.2e 8,20 3,2032.2032 0,2032.2032.2032",
   "1,2035.2035 0,2035.2035.2035 4,21.21 1,20.305 8,3f.3f 0,3f.21 0,21.3f d,2032.2032.2032.2032",
   "7,20 10,30 0,69 2+6,34 0,2b 0,2212 0,3d 0+2,28 0,6e 0+a,30 0,2b 0,2212 0,3d 0+2,28 1,61 0,65",
   "0,6f 0,78 0,259 0,68 0+4,6b 0,70 0+2,73 b,52.73 57,61.2f.63 0,61.2f.73 0,43 0,b0.43",
   "1,63.2f.6f 0,63.2f.75 0,190 1,b0.46 0,67 0,48 0,48 0,48 0,68 0,127 0,49 0,49 0,4c 0,6c 1,4e",
   "0,4e.6f 2+3,50 0,52 0,52 2,53.4d 0,54.45.4c 0,54.4d 1,5a 1,3a9 1,5a 1,4b 0,41.30a 0+2,42",
   "1,65 0+2,45 1,4d 0,6f 0+4,5d0 0,69 1,46.41.58 0,3c0 0,3b3 0,393 0,3a0 0,2211 4,44 0+2,64",
   "0+2,69 6,31.2044.37 0,31.2044.39 0,31.2044.31.30 0,31.2044.33 0,32.2044.33 0,31.2044.35",
   "0,32.2044.35 0,33.2044.35 0,34.2044.35 0,31.2044.36 0,35.2044.36 0,31.2044.38 0,33.2044.38",
   "0,35.2044.38 0,37.2044.38 0,31.2044 0,49 0,49.49 0,49.49.49 0,49.56 0,56 0,56.49 0,56.49.49",
   "0,56.49.49.49 0,49.58 0,58 0,58.49 0,58.49.49 0,4c 0+2,43 0,4d 0,69 0,69.69 0,69.69.69",
   "0,69.76 0,76 0,76.69 0,76.69.69 0,76.69.69.69 0,69.78 0,78 0,78.69 0,78.69.69 0,6c 0+2,63",
   "0,6d 9,30.2044.33 10,2190.338 0,2192.338 12,2194.338 1e,21d0.338 0,21d4.338 0,21d2.338",
   "34,2203.338 4,2208.338 2,220b.338 17,2223.338 1,2225.338 5,222b.222b 0,222b.222b.222b",
   "1,222e.222e 0,222e.222e.222e 10,223c.338 2,2243.338 2,2245.338 1,2248.338 16,3d.338",
   "1,2261.338 a,224d.338 0,3c.338 0,3e.338 0,2264.338 0,2265.338 2,2272.338 0,2273.338",
   "2,2276.338 0,2277.338 6,227a.338 0,227b.338 2,2282.338 0,2283.338 2,2286.338 0,2287.338",
   "22,22a2.338 0,22a8.338 0,22a9.338 0,22ab.338 30,227c.338 0,227d.338 0,2291.338 0,2292.338",
   "6,22b2.338 0,22b3.338 0,22b4.338 0,22b5.338 3b+2,3008 135+9,31 0,31.30 0,31.31 0,31.32",
   "0,31.33 0,31.34 0,31.35 0,31.36 0,31.37 0,31.38 0,31.39 0,32.30 0,28.31.29 0,28.32.29",
   "0,28.33.29 0,28.34.29 0,28.35.29 0,28.36.29 0,28.37.29 0,28.38.29 0,28.39.29 0,28.31.30.29",
   "0,28.31.31.29 0,28.31.32.29 0,28.31.33.29 0,28.31.34.29 0,28.31.35.29 0,28.31.36.29",
   "0,28.31.37.29 0,28.31.38.29 0,28.31.39.29 0,28.32.30.29 0,31.2e 0,32.2e 0,33.2e 0,34.2e",
   "0,35.2e 0,36.2e 0,37.2e 0,38.2e 0,39.2e 0,31.30.2e 0,31.31.2e 0,31.32.2e 0,31.33.2e",
   "0,31.34.2e 0,31.35.2e 0,31.36.2e 0,31.37.2e 0,31.38.2e 0,31.39.2e 0,32.30.2e 0,28.61.29",
   "0,28.62.29 0,28.63.29 0,28.64.29 0,28.65.29 0,28.66.29 0,28.67.29 0,28.68.29 0,28.69.29",
   "0,28.6a.29 0,28.6b.29 0,28.6c.29 0,28.6d.29 0,28.6e.29 0,28.6f.29 0,28.70.29 0,28.71.29",
   "0,28.72.29 0,28.73.29 0,28.74.29 0,28.75.29 0,28.76.29 0,28.77.29 0,28.78.29 0,28.79.29",
   "0,28.7a.29 0+1a,41 0+1a,61 0,30 521,222b.222b.222b.222b 67,3a.3a.3d 0,3d.3d 0,3d.3d.3d",
   "65,2add.338 19f,6a 0,56 f1,2d61 12f,6bcd 53,9f9f c,4e00 0,4e28 0,4e36 0,4e3f 0,4e59 0,4e85",
   "0,4e8c 0,4ea0 0,4eba 0,513f 0,5165 0,516b 0,5182 0,5196 0,51ab 0,51e0 0,51f5 0,5200 0,529b",
   "0,52f9 0,5315 0,531a 0,5338 0,5341 0,535c 0,5369 0,5382 0,53b6 0,53c8 0,53e3 0,56d7 0,571f",
   "0,58eb 0,5902 0,590a 0,5915 0,5927 0,5973 0,5b50 0,5b80 0,5bf8 0,5c0f 0,5c22 0,5c38 0,5c6e",
   "0,5c71 0,5ddb 0,5de5 0,5df1 0,5dfe 0,5e72 0,5e7a 0,5e7f 0,5ef4 0,5efe 0,5f0b 0,5f13 0,5f50",
   "0,5f61 0,5f73 0,5fc3 0,6208 0,6236 0,624b 0,652f 0,6534 0,6587 0,6597 0,65a4 0,65b9 0,65e0",
   "0,65e5 0,66f0 0,6708 0,6728 0,6b20 0,6b62 0,6b79 0,6bb3 0,6bcb 0,6bd4 0,6bdb 0,6c0f 0,6c14",
   "0,6c34 0,706b 0,722a 0,7236 0,723b 0,723f 0,7247 0,7259 0,725b 0,72ac 0,7384 0,7389 0,74dc",
   "0,74e6 0,7518 0,751f 0,7528 0,7530 0,758b 0,7592 0,7676 0,767d 0,76ae 0,76bf 0,76ee 0,77db",
   "0,77e2 0,77f3 0,793a 0,79b8 0,79be 0,7a74 0,7acb 0,7af9 0,7c73 0,7cf8 0,7f36 0,7f51 0,7f8a",
   "0,7fbd 0,8001 0,800c 0,8012 0,8033 0,807f 0,8089 0,81e3 0,81ea 0,81f3 0,81fc 0,820c 0,821b",
   "0,821f 0,826e 0,8272 0,8278 0,864d 0,866b 0,8840 0,884c 0,8863 0,897e 0,898b 0,89d2 0,8a00",
   "0,8c37 0,8c46 0,8c55 0,8c78 0,8c9d 0,8d64 0,8d70 0,8db3 0,8eab 0,8eca 0,8f9b 0,8fb0 0,8fb5",
   "0,9091 0,9149 0,91c6 0,91cc 0,91d1 0,9577 0,9580 0,961c 0,96b6 0,96b9 0,96e8 0,9751 0,975e",
   "0,9762 0,9769 0,97cb 0,97ed 0,97f3 0,9801 0,98a8 0,98db 0,98df 0,9996 0,9999 0,99ac 0,9aa8",
   "0,9ad8 0,9adf 0,9b25 0,9b2f 0,9b32 0,9b3c 0,9b5a 0,9ce5 0,9e75 0,9e7f 0,9ea5 0,9ebb 0,9ec3",
   "0,9ecd 0,9ed1 0,9ef9 0,9efd 0,9f0e 0,9f13 0,9f20 0,9f3b 0,9f4a 0,9f52 0,9f8d 0,9f9c 0,9fa0",
   "2a,20 35,3012 1,5341 0+2,5344 11,304b.3099 1,304d.3099 1,304f.3099 1,3051.3099 1,3053.3099",
   "1,3055.3099 1,3057.3099 1,3059.3099 1,305b.3099 1,305d.3099 1,305f.3099 1,3061.3099",
   "2,3064.3099 1,3066.3099 1,3068.3099 6,306f.3099 0,306f.309a 1,3072.3099 0,3072.309a",
   "1,3075.3099 0,3075.309a 1,3078.3099 0,3078.309a 1,307b.3099 0,307b.309a 16,3046.3099",
   "6,20.3099 0,20.309a 1,309d.3099 0,3088.308a c,30ab.3099 1,30ad.3099 1,30af.3099 1,30b1.3099",
   "1,30b3.3099 1,30b5.3099 1,30b7.3099 1,30b9.3099 1,30bb.3099 1,30bd.3099 1,30bf.3099",
   "1,30c1.3099 2,30c4.3099 1,30c6.3099 1,30c8.3099 6,30cf.3099 0,30cf.309a 1,30d2.3099",
   "0,30d2.309a 1,30d5.3099 0,30d5.309a 1,30d8.3099 0,30d8.309a 1,30db.3099 0,30db.309a",
   "16,30a6.3099 2,30ef.3099 0,30f0.3099 0,30f1.3099 0,30f2.3099 3,30fd.3099 0,30b3.30c8",
   "31+2,1100 0,11aa 0,1102 0+2,11ac 0+3,1103 0+6,11b0 0,111a 0+3,1106 0,1121 0+a,1109 0+15,1161",
   "0,1160 0+2,1114 0+2,11c7 0,11cc 0,11ce 0,11d3 0,11d7 0,11d9 0,111c 0,11dd 0,11df 0+2,111d",
   "0,1120 0+2,1122 0,1127 0,1129 0+5,112b 0,1132 0,1136 0,1140 0,1147 0,114c 0+2,11f1 0+3,1157",
   "0+2,1184 0,1188 0+2,1191 0,1194 0,119e 0,11a1 3,4e00 0,4e8c 0,4e09 0,56db 0,4e0a 0,4e2d",
   "0,4e0b 0,7532 0,4e59 0,4e19 0,4e01 0,5929 0,5730 0,4eba 60,28.1100.29 0,28.1102.29",
   "0,28.1103.29 0,28.1105.29 0,28.1106.29 0,28.1107.29 0,28.1109.29 0,28.110b.29 0,28.110c.29",
   "0,28.110e.29 0,28.110f.29 0,28.1110.29 0,28.1111.29 0,28.1112.29 0,28.1100.1161.29",
   "0,28.1102.1161.29 0,28.1103.1161.29 0,28.1105.1161.29 0,28.1106.1161.29 0,28.1107.1161.29",
   "0,28.1109.1161.29 0,28.110b.1161.29 0,28.110c.1161.29 0,28.110e.1161.29 0,28.110f.1161.29",
   "0,28.1110.1161.29 0,28.1111.1161.29 0,28.1112.1161.29 0,28.110c.116e.29",
   "0,28.110b.1169.110c.1165.11ab.29 0,28.110b.1169.1112.116e.29 1,28.4e00.29 0,28.4e8c.29",
   "0,28.4e09.29 0,28.56db.29 0,28.4e94.29 0,28.516d.29 0,28.4e03.29 0,28.516b.29 0,28.4e5d.29",
   "0,28.5341.29 0,28.6708.29 0,28.706b.29 0,28.6c34.29 0,28.6728.29 0,28.91d1.29 0,28.571f.29",
   "0,28.65e5.29 0,28.682a.29 0,28.6709.29 0,28.793e.29 0,28.540d.29 0,28.7279.29 0,28.8ca1.29",
   "0,28.795d.29 0,28.52b4.29 0,28.4ee3.29 0,28.547c.29 0,28.5b66.29 0,28.76e3.29 0,28.4f01.29",
   "0,28.8cc7.29 0,28.5354.29 0,28.796d.29 0,28.4f11.29 0,28.81ea.29 0,28.81f3.29 0,554f 0,5e7c",
   "0,6587 0,7b8f 8,50.54.45 0,32.31 0,32.32 0,32.33 0,32.34 0,32.35 0,32.36 0,32.37 0,32.38",
   "0,32.39 0,33.30 0,33.31 0,33.32 0,33.33 0,33.34 0,33.35 0,1100 0+2,1102 0+3,1105 0,1109",
   "0+2,110b 0+5,110e 0,1100.1161 0,1102.1161 0,1103.1161 0,1105.1161 0,1106.1161 0,1107.1161",
   "0,1109.1161 0,110b.1161 0,110c.1161 0,110e.1161 0,110f.1161 0,1110.1161 0,1111.1161",
   "0,1112.1161 0,110e.1161.11b7.1100.1169 0,110c.116e.110b.1174 0,110b.116e 1,4e00 0,4e8c",
   "0,4e09 0,56db 0,4e94 0,516d 0,4e03 0,516b 0,4e5d 0,5341 0,6708 0,706b 0,6c34 0,6728 0,91d1",
   "0,571f 0,65e5 0,682a 0,6709 0,793e 0,540d 0,7279 0,8ca1 0,795d 0,52b4 0,79d8 0,7537 0,5973",
   "0,9069 0,512a 0,5370 0,6ce8 0,9805 0,4f11 0,5199 0,6b63 0,4e0a 0,4e2d 0,4e0b 0,5de6 0,53f3",
   "0,533b 0,5b97 0,5b66 0,76e3 0,4f01 0,8cc7 0,5354 0,591c 0,33.36 0,33.37 0,33.38 0,33.39",
   "0,34.30 0,34.31 0,34.32 0,34.33 0,34.34 0,34.35 0,34.36 0,34.37 0,34.38 0,34.39 0,35.30",
   "0,31.6708 0,32.6708 0,33.6708 0,34.6708 0,35.6708 0,36.6708 0,37.6708 0,38.6708 0,39.6708",
   "0,31.30.6708 0,31.31.6708 0,31.32.6708 0,48.67 0,65.72.67 0,65.56 0,4c.54.44 0,30a2 0,30a4",
   "0,30a6 0,30a8 0+2,30aa 0,30ad 0,30af 0,30b1 0,30b3 0,30b5 0,30b7 0,30b9 0,30bb 0,30bd 0,30bf",
   "0,30c1 0,30c4 0,30c6 0,30c8 0+6,30ca 0,30d2 0,30d5 0,30d8 0,30db 0+5,30de 0,30e4 0,30e6",
   "0+6,30e8 0+4,30ef 0,4ee4.548c 0,30a2.30cf.309a.30fc.30c8 0,30a2.30eb.30d5.30a1",
   "0,30a2.30f3.30d8.309a.30a2 0,30a2.30fc.30eb 0,30a4.30cb.30f3.30af.3099 0,30a4.30f3.30c1",
   "0,30a6.30a9.30f3 0,30a8.30b9.30af.30fc.30c8.3099 0,30a8.30fc.30ab.30fc 0,30aa.30f3.30b9",
   "0,30aa.30fc.30e0 0,30ab.30a4.30ea 0,30ab.30e9.30c3.30c8 0,30ab.30ed.30ea.30fc",
   "0,30ab.3099.30ed.30f3 0,30ab.3099.30f3.30de 0,30ad.3099.30ab.3099 0,30ad.3099.30cb.30fc",
   "0,30ad.30e5.30ea.30fc 0,30ad.3099.30eb.30bf.3099.30fc 0,30ad.30ed",
   "0,30ad.30ed.30af.3099.30e9.30e0 0,30ad.30ed.30e1.30fc.30c8.30eb 0,30ad.30ed.30ef.30c3.30c8",
   "0,30af.3099.30e9.30e0 0,30af.3099.30e9.30e0.30c8.30f3 0,30af.30eb.30bb.3099.30a4.30ed",
   "0,30af.30ed.30fc.30cd 0,30b1.30fc.30b9 0,30b3.30eb.30ca 0,30b3.30fc.30db.309a",
   "0,30b5.30a4.30af.30eb 0,30b5.30f3.30c1.30fc.30e0 0,30b7.30ea.30f3.30af.3099 0,30bb.30f3.30c1",
   "0,30bb.30f3.30c8 0,30bf.3099.30fc.30b9 0,30c6.3099.30b7 0,30c8.3099.30eb 0,30c8.30f3",
   "0,30ca.30ce 0,30ce.30c3.30c8 0,30cf.30a4.30c4 0,30cf.309a.30fc.30bb.30f3.30c8",
   "0,30cf.309a.30fc.30c4 0,30cf.3099.30fc.30ec.30eb 0,30d2.309a.30a2.30b9.30c8.30eb",
   "0,30d2.309a.30af.30eb 0,30d2.309a.30b3 0,30d2.3099.30eb 0,30d5.30a1.30e9.30c3.30c8.3099",
   "0,30d5.30a3.30fc.30c8 0,30d5.3099.30c3.30b7.30a7.30eb 0,30d5.30e9.30f3",
   "0,30d8.30af.30bf.30fc.30eb 0,30d8.309a.30bd 0,30d8.309a.30cb.30d2 0,30d8.30eb.30c4",
   "0,30d8.309a.30f3.30b9 0,30d8.309a.30fc.30b7.3099 0,30d8.3099.30fc.30bf",
   "0,30db.309a.30a4.30f3.30c8 0,30db.3099.30eb.30c8 0,30db.30f3 0,30db.309a.30f3.30c8.3099",
   "0,30db.30fc.30eb 0,30db.30fc.30f3 0,30de.30a4.30af.30ed 0,30de.30a4.30eb 0,30de.30c3.30cf",
   "0,30de.30eb.30af 0,30de.30f3.30b7.30e7.30f3 0,30df.30af.30ed.30f3 0,30df.30ea",
   "0,30df.30ea.30cf.3099.30fc.30eb 0,30e1.30ab.3099 0,30e1.30ab.3099.30c8.30f3",
   "0,30e1.30fc.30c8.30eb 0,30e4.30fc.30c8.3099 0,30e4.30fc.30eb 0,30e6.30a2.30f3",
   "0,30ea.30c3.30c8.30eb 0,30ea.30e9 0,30eb.30d2.309a.30fc 0,30eb.30fc.30d5.3099.30eb",
   "0,30ec.30e0 0,30ec.30f3.30c8.30b1.3099.30f3 0,30ef.30c3.30c8 0,30.70b9 0,31.70b9 0,32.70b9",
   "0,33.70b9 0,34.70b9 0,35.70b9 0,36.70b9 0,37.70b9 0,38.70b9 0,39.70b9 0,31.30.70b9",
   "0,31.31.70b9 0,31.32.70b9 0,31.33.70b9 0,31.34.70b9 0,31.35.70b9 0,31.36.70b9 0,31.37.70b9",
   "0,31.38.70b9 0,31.39.70b9 0,32.30.70b9 0,32.31.70b9 0,32.32.70b9 0,32.33.70b9 0,32.34.70b9",
   "0,68.50.61 0,64.61 0,41.55 0,62.61.72 0,6f.56 0,70.63 0,64.6d 0,64.6d.32 0,64.6d.33 0,49.55",
   "0,5e73.6210 0,662d.548c 0,5927.6b63 0,660e.6cbb 0,682a.5f0f.4f1a.793e 0,70.41 0,6e.41",
   "0,3bc.41 0,6d.41 0,6b.41 0,4b.42 0,4d.42 0,47.42 0,63.61.6c 0,6b.63.61.6c 0,70.46 0,6e.46",
   "0,3bc.46 0,3bc.67 0,6d.67 0,6b.67 0,48.7a 0,6b.48.7a 0,4d.48.7a 0,47.48.7a 0,54.48.7a",
   "0,3bc.6c 0,6d.6c 0,64.6c 0,6b.6c 0,66.6d 0,6e.6d 0,3bc.6d 0,6d.6d 0,63.6d 0,6b.6d 0,6d.6d.32",
   "0,63.6d.32 0,6d.32 0,6b.6d.32 0,6d.6d.33 0,63.6d.33 0,6d.33 0,6b.6d.33 0,6d.2215.73",
   "0,6d.2215.73.32 0,50.61 0,6b.50.61 0,4d.50.61 0,47.50.61 0,72.61.64 0,72.61.64.2215.73",
   "0,72.61.64.2215.73.32 0,70.73 0,6e.73 0,3bc.73 0,6d.73 0,70.56 0,6e.56 0,3bc.56 0,6d.56",
   "0,6b.56 0,4d.56 0,70.57 0,6e.57 0,3bc.57 0,6d.57 0,6b.57 0,4d.57 0,6b.3a9 0,4d.3a9",
   "0,61.2e.6d.2e 0,42.71 0,63.63 0,63.64 0,43.2215.6b.67 0,43.6f.2e 0,64.42 0,47.79 0,68.61",
   "0,48.50 0,69.6e 0,4b.4b 0,4b.4d 0,6b.74 0,6c.6d 0,6c.6e 0,6c.6f.67 0,6c.78 0,6d.62",
   "0,6d.69.6c 0,6d.6f.6c 0,50.48 0,70.2e.6d.2e 0,50.50.4d 0,50.52 0,73.72 0,53.76 0,57.62",
   "0,56.2215.6d 0,41.2215.6d 0,31.65e5 0,32.65e5 0,33.65e5 0,34.65e5 0,35.65e5 0,36.65e5",
   "0,37.65e5 0,38.65e5 0,39.65e5 0,31.30.65e5 0,31.31.65e5 0,31.32.65e5 0,31.33.65e5",
   "0,31.34.65e5 0,31.35.65e5 0,31.36.65e5 0,31.37.65e5 0,31.38.65e5 0,31.39.65e5 0,32.30.65e5",
   "0,32.31.65e5 0,32.32.65e5 0,32.33.65e5 0,32.34.65e5 0,32.35.65e5 0,32.36.65e5 0,32.37.65e5",
   "0,32.38.65e5 0,32.39.65e5 0,33.30.65e5 0,33.31.65e5 0,67.61.6c 729c,44a 0,44c d2,a76f 81,43",
   "0,46 0,51 3,126 0,153 362,a727 0,ab37 0,26b 0,ab52 9,28d 4d96,8c48 0,66f4 0,8eca 0,8cc8",
   "0,6ed1 0,4e32 0,53e5 0,9f9c 0,9f9c 0,5951 0,91d1 0,5587 0,5948 0,61f6 0,7669 0,7f85 0,863f",
   "0,87ba 0,88f8 0,908f 0,6a02 0,6d1b 0,70d9 0,73de 0,843d 0,916a 0,99f1 0,4e82 0,5375 0,6b04",
   "0,721b 0,862d 0,9e1e 0,5d50 0,6feb 0,85cd 0,8964 0,62c9 0,81d8 0,881f 0,5eca 0,6717 0,6d6a",
   "0,72fc 0,90ce 0,4f86 0,51b7 0,52de 0,64c4 0,6ad3 0,7210 0,76e7 0,8001 0,8606 0,865c 0,8def",
   "0,9732 0,9b6f 0,9dfa 0,788c 0,797f 0,7da0 0,83c9 0,9304 0,9e7f 0,8ad6 0,58df 0,5f04 0,7c60",
   "0,807e 0,7262 0,78ca 0,8cc2 0,96f7 0,58d8 0,5c62 0,6a13 0,6dda 0,6f0f 0,7d2f 0,7e37 0,964b",
   "0,52d2 0,808b 0,51dc 0,51cc 0,7a1c 0,7dbe 0,83f1 0,9675 0,8b80 0,62cf 0,6a02 0,8afe 0,4e39",
   "0,5be7 0,6012 0,7387 0,7570 0,5317 0,78fb 0,4fbf 0,5fa9 0,4e0d 0,6ccc 0,6578 0,7d22 0,53c3",
   "0,585e 0,7701 0,8449 0,8aaa 0,6bba 0,8fb0 0,6c88 0,62fe 0,82e5 0,63a0 0,7565 0,4eae 0,5169",
   "0,51c9 0,6881 0,7ce7 0,826f 0,8ad2 0,91cf 0,52f5 0,5442 0,5973 0,5eec 0,65c5 0,6ffe 0,792a",
   "0,95ad 0,9a6a 0,9e97 0,9ece 0,529b 0,66c6 0,6b77 0,8f62 0,5e74 0,6190 0,6200 0,649a 0,6f23",
   "0,7149 0,7489 0,79ca 0,7df4 0,806f 0,8f26 0,84ee 0,9023 0,934a 0,5217 0,52a3 0,54bd 0,70c8",
   "0,88c2 0,8aaa 0,5ec9 0,5ff5 0,637b 0,6bae 0,7c3e 0,7375 0,4ee4 0,56f9 0,5be7 0,5dba 0,601c",
   "0,73b2 0,7469 0,7f9a 0,8046 0,9234 0,96f6 0,9748 0,9818 0,4f8b 0,79ae 0,91b4 0,96b8 0,60e1",
   "0,4e86 0,50da 0,5bee 0,5c3f 0,6599 0,6a02 0,71ce 0,7642 0,84fc 0,907c 0,9f8d 0,6688 0,962e",
   "0,5289 0,677b 0,67f3 0,6d41 0,6e9c 0,7409 0,7559 0,786b 0,7d10 0,985e 0,516d 0,622e 0,9678",
   "0,502b 0,5d19 0,6dea 0,8f2a 0,5f8b 0,6144 0,6817 0,7387 0,9686 0,5229 0,540f 0,5c65 0,6613",
   "0,674e 0,68a8 0,6ce5 0,7406 0,75e2 0,7f79 0,88cf 0,88e1 0,91cc 0,96e2 0,533f 0,6eba 0,541d",
   "0,71d0 0,7498 0,85fa 0,96a3 0,9c57 0,9e9f 0,6797 0,6dcb 0,81e8 0,7acb 0,7b20 0,7c92 0,72c0",
   "0,7099 0,8b58 0,4ec0 0,8336 0,523a 0,5207 0,5ea6 0,62d3 0,7cd6 0,5b85 0,6d1e 0,66b4 0,8f3b",
   "0,884c 0,964d 0,898b 0,5ed3 0,5140 0,55c0 2,585a 1,6674 2,51de 0,732a 0,76ca 0,793c 0,795e",
   "0,7965 0,798f 0,9756 0,7cbe 0,7fbd 1,8612 1,8af8 2,9038 0,90fd 3,98ef 0,98fc 0,9928 0,9db4",
   "0,90de 0,96b7 0,4fae 0,50e7 0,514d 0,52c9 0,52e4 0,5351 0,559d 0,5606 0,5668 0,5840 0,58a8",
   "0,5c64 0,5c6e 0,6094 0,6168 0,618e 0,61f2 0,654f 0,65e2 0,6691 0,6885 0,6d77 0,6e1a 0,6f22",
   "0,716e 0,722b 0,7422 0,7891 0,793e 0,7949 0,7948 0,7950 0,7956 0,795d 0+2,798d 0,7a40 0,7a81",
   "0,7bc0 0,7df4 0,7e09 0,7e41 0,7f72 0,8005 0,81ed 0,8279 0,8279 0,8457 0,8910 0,8996 0,8b01",
   "0,8b39 0,8cd3 0,8d08 0,8fb6 0,9038 0,96e3 0,97ff 0,983b 0,6075 0,242ee 0,8218 2,4e26 0,51b5",
   "0,5168 0,4f80 0,5145 0,5180 0,52c7 0,52fa 0,559d 0,5555 0,5599 0,55e2 0,585a 0,58b3 0,5944",
   "0,5954 0,5a62 0,5b28 0,5ed2 0,5ed9 0,5f69 0,5fad 0,60d8 0,614e 0,6108 0,618e 0,6160 0,61f2",
   "0,6234 0,63c4 0,641c 0,6452 0,6556 0,6674 0,6717 0,671b 0,6756 0,6b79 0,6bba 0,6d41 0,6edb",
   "0,6ecb 0,6f22 0,701e 0,716e 0,77a7 0,7235 0,72af 0,732a 0,7471 0,7506 0,753b 0,761d 0,761f",
   "0,76ca 0,76db 0,76f4 0,774a 0,7740 0,78cc 0,7ab1 0,7bc0 0,7c7b 0,7d5b 0,7df4 0,7f3e 0,8005",
   "0,8352 0,83ef 0,8779 0,8941 0,8986 0,8996 0,8abf 0,8af8 0,8acb 0,8b01 0,8afe 0,8aed 0,8b39",
   "0,8b8a 0,8d08 0,8f38 0,9072 0,9199 0,9276 0,967c 0,96e3 0,9756 0,97db 0,97ff 0,980b 0,983b",
   "0,9b12 0,9f9c 0,2284a 0,22844 0,233d5 0,3b9d 0,4018 0,4039 0,25249 0,25cd0 0,27ed3 0,9f43",
   "0,9f8e 26,66.66 0,66.69 0,66.6c 0,66.66.69 0,66.66.6c 0,73.74 0,73.74 c,574.576 0,574.565",
   "0,574.56b 0,57e.576 0,574.56d 5,5d9.5b4 1,5f2.5b7 0,5e2 0,5d0 0+2,5d3 0+3,5db 0,5e8 0,5ea",
   "0,2b 0,5e9.5c1 0,5e9.5c2 0,5e9.5bc.5c1 0,5e9.5bc.5c2 0,5d0.5b7 0,5d0.5b8 0,5d0.5bc 0,5d1.5bc",
   "0,5d2.5bc 0,5d3.5bc 0,5d4.5bc 0,5d5.5bc 0,5d6.5bc 1,5d8.5bc 0,5d9.5bc 0,5da.5bc 0,5db.5bc",
   "0,5dc.5bc 1,5de.5bc 1,5e0.5bc 0,5e1.5bc 1,5e3.5bc 0,5e4.5bc 1,5e6.5bc 0,5e7.5bc 0,5e8.5bc",
   "0,5e9.5bc 0,5ea.5bc 0,5d5.5b9 0,5d1.5bf 0,5db.5bf 0,5e4.5bf 0,5d0.5dc 0,671 0,671 0,67b",
   "0,67b 0,67b 0,67b 0,67e 0,67e 0,67e 0,67e 0,680 0,680 0,680 0,680 0,67a 0,67a 0,67a 0,67a",
   "0,67f 0,67f 0,67f 0,67f 0,679 0,679 0,679 0,679 0,6a4 0,6a4 0,6a4 0,6a4 0,6a6 0,6a6 0,6a6",
   "0,6a6 0,684 0,684 0,684 0,684 0,683 0,683 0,683 0,683 0,686 0,686 0,686 0+2,686 0,687 0,687",
   "0,687 0,68d 0,68d 0,68c 0,68c 0,68e 0,68e 0,688 0,688 0,698 0,698 0,691 0,691 0,6a9 0,6a9",
   "0,6a9 0,6a9 0,6af 0,6af 0,6af 0,6af 0,6b3 0,6b3 0,6b3 0,6b3 0,6b1 0,6b1 0,6b1 0,6b1 0,6ba",
   "0+2,6ba 0,6bb 0,6bb 0,6bb 0,6d5.654 0,6d5.654 0,6c1 0,6c1 0,6c1 0,6c1 0,6be 0,6be 0,6be",
   "0,6be 0,6d2 0,6d2 0,6d2.654 0,6d2.654 21,6ad 0,6ad 0,6ad 0,6ad 0,6c7 0,6c7 0,6c6 0,6c6 0,6c8",
   "0,6c8 0,6c7.674 0,6cb 0,6cb 0,6c5 0,6c5 0,6c9 0,6c9 0,6d0 0,6d0 0,6d0 0,6d0 0,649 0,649",
   "0,64a.654.627 0,64a.654.627 0,64a.654.6d5 0,64a.654.6d5 0,64a.654.648 0,64a.654.648",
   "0,64a.654.6c7 0,64a.654.6c7 0,64a.654.6c6 0,64a.654.6c6 0,64a.654.6c8 0,64a.654.6c8",
   "0,64a.654.6d0 0,64a.654.6d0 0,64a.654.6d0 0,64a.654.649 0,64a.654.649 0,64a.654.649 0,6cc",
   "0,6cc 0,6cc 0,6cc 0,64a.654.62c 0,64a.654.62d 0,64a.654.645 0,64a.654.649 0,64a.654.64a",
   "0,628.62c 0,628.62d 0,628.62e 0,628.645 0,628.649 0,628.64a 0,62a.62c 0,62a.62d 0,62a.62e",
   "0,62a.645 0,62a.649 0,62a.64a 0,62b.62c 0,62b.645 0,62b.649 0,62b.64a 0,62c.62d 0,62c.645",
   "0,62d.62c 0,62d.645 0,62e.62c 0,62e.62d 0,62e.645 0,633.62c 0,633.62d 0,633.62e 0,633.645",
   "0,635.62d 0,635.645 0,636.62c 0,636.62d 0,636.62e 0,636.645 0,637.62d 0,637.645 0,638.645",
   "0,639.62c 0,639.645 0,63a.62c 0,63a.645 0,641.62c 0,641.62d 0,641.62e 0,641.645 0,641.649",
   "0,641.64a 0,642.62d 0,642.645 0,642.649 0,642.64a 0,643.627 0,643.62c 0,643.62d 0,643.62e",
   "0,643.644 0,643.645 0,643.649 0,643.64a 0,644.62c 0,644.62d 0,644.62e 0,644.645 0,644.649",
   "0,644.64a 0,645.62c 0,645.62d 0,645.62e 0,645.645 0,645.649 0,645.64a 0,646.62c 0,646.62d",
   "0,646.62e 0,646.645 0,646.649 0,646.64a 0,647.62c 0,647.645 0,647.649 0,647.64a 0,64a.62c",
   "0,64a.62d 0,64a.62e 0,64a.645 0,64a.649 0,64a.64a 0,630.670 0,631.670 0,649.670 0,20.64c.651",
   "0,20.64d.651 0,20.64e.651 0,20.64f.651 0,20.650.651 0,20.651.670 0,64a.654.631 0,64a.654.632",
   "0,64a.654.645 0,64a.654.646 0,64a.654.649 0,64a.654.64a 0,628.631 0,628.632 0,628.645",
   "0,628.646 0,628.649 0,628.64a 0,62a.631 0,62a.632 0,62a.645 0,62a.646 0,62a.649 0,62a.64a",
   "0,62b.631 0,62b.632 0,62b.645 0,62b.646 0,62b.649 0,62b.64a 0,641.649 0,641.64a 0,642.649",
   "0,642.64a 0,643.627 0,643.644 0,643.645 0,643.649 0,643.64a 0,644.645 0,644.649 0,644.64a",
   "0,645.627 0,645.645 0,646.631 0,646.632 0,646.645 0,646.646 0,646.649 0,646.64a 0,649.670",
   "0,64a.631 0,64a.632 0,64a.645 0,64a.646 0,64a.649 0,64a.64a 0,64a.654.62c 0,64a.654.62d",
   "0,64a.654.62e 0,64a.654.645 0,64a.654.647 0,628.62c 0,628.62d 0,628.62e 0,628.645 0,628.647",
   "0,62a.62c 0,62a.62d 0,62a.62e 0,62a.645 0,62a.647 0,62b.645 0,62c.62d 0,62c.645 0,62d.62c",
   "0,62d.645 0,62e.62c 0,62e.645 0,633.62c 0,633.62d 0,633.62e 0,633.645 0,635.62d 0,635.62e",
   "0,635.645 0,636.62c 0,636.62d 0,636.62e 0,636.645 0,637.62d 0,638.645 0,639.62c 0,639.645",
   "0,63a.62c 0,63a.645 0,641.62c 0,641.62d 0,641.62e 0,641.645 0,642.62d 0,642.645 0,643.62c",
   "0,643.62d 0,643.62e 0,643.644 0,643.645 0,644.62c 0,644.62d 0,644.62e 0,644.645 0,644.647",
   "0,645.62c 0,645.62d 0,645.62e 0,645.645 0,646.62c 0,646.62d 0,646.62e 0,646.645 0,646.647",
   "0,647.62c 0,647.645 0,647.670 0,64a.62c 0,64a.62d 0,64a.62e 0,64a.645 0,64a.647",
   "0,64a.654.645 0,64a.654.647 0,628.645 0,628.647 0,62a.645 0,62a.647 0,62b.645 0,62b.647",
   "0,633.645 0,633.647 0,634.645 0,634.647 0,643.644 0,643.645 0,644.645 0,646.645 0,646.647",
   "0,64a.645 0,64a.647 0,640.64e.651 0,640.64f.651 0,640.650.651 0,637.649 0,637.64a 0,639.649",
   "0,639.64a 0,63a.649 0,63a.64a 0,633.649 0,633.64a 0,634.649 0,634.64a 0,62d.649 0,62d.64a",
   "0,62c.649 0,62c.64a 0,62e.649 0,62e.64a 0,635.649 0,635.64a 0,636.649 0,636.64a 0,634.62c",
   "0,634.62d 0,634.62e 0,634.645 0,634.631 0,633.631 0,635.631 0,636.631 0,637.649 0,637.64a",
   "0,639.649 0,639.64a 0,63a.649 0,63a.64a 0,633.649 0,633.64a 0,634.649 0,634.64a 0,62d.649",
   "0,62d.64a 0,62c.649 0,62c.64a 0,62e.649 0,62e.64a 0,635.649 0,635.64a 0,636.649 0,636.64a",
   "0,634.62c 0,634.62d 0,634.62e 0,634.645 0,634.631 0,633.631 0,635.631 0,636.631 0,634.62c",
   "0,634.62d 0,634.62e 0,634.645 0,633.647 0,634.647 0,637.645 0,633.62c 0,633.62d 0,633.62e",
   "0,634.62c 0,634.62d 0,634.62e 0,637.645 0,638.645 0,627.64b 0,627.64b 12,62a.62c.645",
   "0,62a.62d.62c 0,62a.62d.62c 0,62a.62d.645 0,62a.62e.645 0,62a.645.62c 0,62a.645.62d",
   "0,62a.645.62e 0,62c.645.62d 0,62c.645.62d 0,62d.645.64a 0,62d.645.649 0,633.62d.62c",
   "0,633.62c.62d 0,633.62c.649 0,633.645.62d 0,633.645.62d 0,633.645.62c 0,633.645.645",
   "0,633.645.645 0,635.62d.62d 0,635.62d.62d 0,635.645.645 0,634.62d.645 0,634.62d.645",
   "0,634.62c.64a 0,634.645.62e 0,634.645.62e 0,634.645.645 0,634.645.645 0,636.62d.649",
   "0,636.62e.645 0,636.62e.645 0,637.645.62d 0,637.645.62d 0,637.645.645 0,637.645.64a",
   "0,639.62c.645 0,639.645.645 0,639.645.645 0,639.645.649 0,63a.645.645 0,63a.645.64a",
   "0,63a.645.649 0,641.62e.645 0,641.62e.645 0,642.645.62d 0,642.645.645 0,644.62d.645",
   "0,644.62d.64a 0,644.62d.649 0,644.62c.62c 0,644.62c.62c 0,644.62e.645 0,644.62e.645",
   "0,644.645.62d 0,644.645.62d 0,645.62d.62c 0,645.62d.645 0,645.62d.64a 0,645.62c.62d",
   "0,645.62c.645 0,645.62e.62c 0,645.62e.645 2,645.62c.62e 0,647.645.62c 0,647.645.645",
   "0,646.62d.645 0,646.62d.649 0,646.62c.645 0,646.62c.645 0,646.62c.649 0,646.645.64a",
   "0,646.645.649 0,64a.645.645 0,64a.645.645 0,628.62e.64a 0,62a.62c.64a 0,62a.62c.649",
   "0,62a.62e.64a 0,62a.62e.649 0,62a.645.64a 0,62a.645.649 0,62c.645.64a 0,62c.62d.649",
   "0,62c.645.649 0,633.62e.649 0,635.62d.64a 0,634.62d.64a 0,636.62d.64a 0,644.62c.64a",
   "0,644.645.64a 0,64a.62d.64a 0,64a.62c.64a 0,64a.645.64a 0,645.645.64a 0,642.645.64a",
   "0,646.62d.64a 0,642.645.62d 0,644.62d.645 0,639.645.64a 0,643.645.64a 0,646.62c.62d",
   "0,645.62e.64a 0,644.62c.645 0,643.645.645 0,644.62c.645 0,646.62c.62d 0,62c.62d.64a",
   "0,62d.62c.64a 0,645.62c.64a 0,641.645.64a 0,628.62d.64a 0,643.645.645 0,639.62c.645",
   "0,635.645.645 0,633.62e.64a 0,646.62c.64a 28,635.644.6d2 0,642.644.6d2 0,627.644.644.647",
   "0,627.643.628.631 0,645.62d.645.62f 0,635.644.639.645 0,631.633.648.644 0,639.644.64a.647",
   "0,648.633.644.645 0,635.644.649",
   "0,635.644.649.20.627.644.644.647.20.639.644.64a.647.20.648.633.644.645",
   "0,62c.644.20.62c.644.627.644.647 0,631.6cc.627.644 13,2c 0+2,3001 0+2,3a 0,21 0,3f 0+2,3016",
   "0,2e.2e.2e 16,2e.2e 0,2014 0,2013 0,5f 0,5f 0+2,28 0,7b 0,7d 0+2,3014 0+2,3010 0+2,300a",
   "0+2,3008 0+4,300c 2,5b 0,5d 0,20.305 0,20.305 0,20.305 0,20.305 0,5f 0,5f 0,5f 0,2c 0,3001",
   "0,2e 1,3b 0,3a 0,3f 0,21 0,2014 0+2,28 0,7b 0,7d 0+2,3014 0,23 0,26 0+2,2a 0,2d 0,3c 0,3e",
   "0,3d 1,5c 0+2,24 0,40 4,20.64b 0,640.64b 0,20.64c 1,20.64d 1,20.64e 0,640.64e 0,20.64f",
   "0,640.64f 0,20.650 0,640.650 0,20.651 0,640.651 0,20.652 0,640.652 0,621 0,627.653 0,627.653",
   "0,627.654 0,627.654 0,648.654 0,648.654 0,627.655 0,627.655 0,64a.654 0,64a.654 0,64a.654",
   "0,64a.654 0,627 0+2,627 0,628 0,628 0+2,628 0+2,629 0,62a 0,62a 0+2,62a 0,62b 0,62b 0+2,62b",
   "0,62c 0,62c 0+2,62c 0,62d 0,62d 0+2,62d 0,62e 0,62e 0+2,62e 0+2,62f 0+2,630 0+2,631 0+2,632",
   "0,633 0,633 0+2,633 0,634 0,634 0+2,634 0,635 0,635 0+2,635 0,636 0,636 0+2,636 0,637 0,637",
   "0+2,637 0,638 0,638 0+2,638 0,639 0,639 0+2,639 0,63a 0,63a 0,63a 0,641 0,641 0,641 0+2,641",
   "0,642 0,642 0+2,642 0,643 0,643 0+2,643 0,644 0,644 0+2,644 0,645 0,645 0+2,645 0,646 0,646",
   "0+2,646 0,647 0,647 0+2,647 0+2,648 0+2,649 0,64a 0,64a 0,64a 0,644.627.653 0,644.627.653",
   "0,644.627.654 0,644.627.654 0,644.627.655 0,644.627.655 0,644.627 0,644.627 4+5e,21 0+2,2985",
   "0,3002 0+2,300c 0,3001 0,30fb 0,30f2 0,30a1 0,30a3 0,30a5 0,30a7 0,30a9 0,30e3 0,30e5 0,30e7",
   "0,30c3 0,30fc 0,30a2 0,30a4 0,30a6 0,30a8 0+2,30aa 0,30ad 0,30af 0,30b1 0,30b3 0,30b5 0,30b7",
   "0,30b9 0,30bb 0,30bd 0,30bf 0,30c1 0,30c4 0,30c6 0,30c8 0+6,30ca 0,30d2 0,30d5 0,30d8 0,30db",
   "0+5,30de 0,30e4 0,30e6 0+6,30e8 0,30ef 0,30f3 0+2,3099 0,1160 0+2,1100 0,11aa 0,1102",
   "0+2,11ac 0+3,1103 0+6,11b0 0,111a 0+3,1106 0,1121 0+a,1109 3+6,1161 2+6,1167 2+6,116d",
   "2+3,1173 3+2,a2 0,ac 0,20.304 0,a6 0,a5 0,20a9 1,2502 0+4,2190 0,25a0 0,25cb 792+2,2d0 0,e6",
   "0,299 0,253 1,2a3 0,ab66 0,2a5 0,2a4 0+2,256 0,1d91 0,258 0,25e 0,2a9 0,264 0,262 0,260",
   "0,29b 0,127 0,29c 0,267 0,284 0+2,2aa 0,26c 0,1df04 0,a78e 0,26e 0,1df05 0,28e 0,1df06 0,f8",
   "0+2,276 0,71 0,27a 0,1df08 0+2,27d 0,280 0,2a8 0,2a6 0,ab67 0,2a7 0,288 0,2c71 1,28f 0+2,2a1",
   "0,298 0+3,1c0 0,1df0a 0,1df1e 8df,11099.110ba 1,1109b.110ba e,110a5.110ba 82,11131.11127",
   "0,11132.11127 21b,11347.1133e 0,11347.11357 16e,114b9.114ba 0,114b9.114b0 1,114b9.114bd",
   "fb,115b8.115af 0,115b9.115af 37c,11935.11930 b825,1d157.1d165 0,1d158.1d165",
   "0,1d158.1d165.1d16e 0,1d158.1d165.1d16f 0,1d158.1d165.1d170 0,1d158.1d165.1d171",
   "0,1d158.1d165.1d172 56,1d1b9.1d165 0,1d1ba.1d165 0,1d1b9.1d165.1d16e 0,1d1ba.1d165.1d16e",
   "0,1d1b9.1d165.1d16f 0,1d1ba.1d165.1d16f 23f+1a,41 0+1a,61 0+1a,41 0+7,61 1+12,69 0+1a,41",
   "0+1a,61 0,41 1+2,43 2,47 2+2,4a 2+4,4e 1+8,53 0+4,61 1,66 1+7,68 1+b,70 0+1a,41 0+1a,61",
   "0+2,41 1+4,44 2+8,4a 1+7,53 1+1a,61 0+2,41 1+4,44 1+5,49 1,4f 3+7,53 1+1a,61 0+1a,41 0+1a,61",
   "0+1a,41 0+1a,61 0+1a,41 0+1a,61 0+1a,41 0+1a,61 0+1a,41 0+1a,61 0+1a,41 0+1a,61 0,131 0,237",
   "2+11,391 0,398 0+7,3a3 0,2207 0+19,3b1 0,2202 0,3b5 0,3b8 0,3ba 0,3c6 0,3c1 0,3c0 0+11,391",
   "0,398 0+7,3a3 0,2207 0+19,3b1 0,2202 0,3b5 0,3b8 0,3ba 0,3c6 0,3c1 0,3c0 0+11,391 0,398",
   "0+7,3a3 0,2207 0+19,3b1 0,2202 0,3b5 0,3b8 0,3ba 0,3c6 0,3c1 0,3c0 0+11,391 0,398 0+7,3a3",
   "0,2207 0+19,3b1 0,2202 0,3b5 0,3b8 0,3ba 0,3c6 0,3c1 0,3c0 0+11,391 0,398 0+7,3a3 0,2207",
   "0+19,3b1 0,2202 0,3b5 0,3b8 0,3ba 0,3c6 0,3c1 0,3c0 0+2,3dc 2+a,30 0+a,30 0+a,30 0+a,30",
   "0+a,30 1600+2,627 0,62c 0,62f 1,648 0,632 0,62d 0,637 0,64a 0+4,643 0,633 0,639 0,641 0,635",
   "0,642 0,631 0,634 0+2,62a 0,62e 0,630 0,636 0,638 0,63a 0,66e 0,6ba 0,6a1 0,66f 1,628 0,62c",
   "1,647 2,62d 1,64a 0+4,643 0,633 0,639 0,641 0,635 0,642 1,634 0+2,62a 0,62e 1,636 1,63a",
   "6,62c 4,62d 1,64a 1,644 1,646 0,633 0,639 1,635 0,642 1,634 2,62e 1,636 1,63a 1,6ba 1,66f",
   "1,628 0,62c 1,647 2,62d 0,637 0,64a 0,643 1+2,645 0,633 0,639 0,641 0,635 0,642 1,634",
   "0+2,62a 0,62e 1,636 0,638 0,63a 0,66e 1,6a1 1+2,627 0,62c 0,62f 0+2,647 0,632 0,62d 0,637",
   "0,64a 1+3,644 0,633 0,639 0,641 0,635 0,642 0,631 0,634 0+2,62a 0,62e 0,630 0,636 0,638",
   "0,63a 5,628 0,62c 0,62f 1,648 0,632 0,62d 0,637 0,64a 1+3,644 0,633 0,639 0,641 0,635 0,642",
   "0,631 0,634 0+2,62a 0,62e 0,630 0,636 0,638 0,63a 244,30.2e 0,30.2c 0,31.2c 0,32.2c 0,33.2c",
   "0,34.2c 0,35.2c 0,36.2c 0,37.2c 0,38.2c 0,39.2c 5,28.41.29 0,28.42.29 0,28.43.29 0,28.44.29",
   "0,28.45.29 0,28.46.29 0,28.47.29 0,28.48.29 0,28.49.29 0,28.4a.29 0,28.4b.29 0,28.4c.29",
   "0,28.4d.29 0,28.4e.29 0,28.4f.29 0,28.50.29 0,28.51.29 0,28.52.29 0,28.53.29 0,28.54.29",
   "0,28.55.29 0,28.56.29 0,28.57.29 0,28.58.29 0,28.59.29 0,28.5a.29 0,3014.53.3015 0,43 0,52",
   "0,43.44 0,57.5a 1+1a,41 0,48.56 0,4d.56 0,53.44 0,53.53 0,50.50.56 0,57.43 1a,4d.43 0,4d.44",
   "0,4d.52 23,44.4a 6f,307b.304b 0,30b3.30b3 0,30b5 d,624b 0,5b57 0,53cc 0,30c6.3099 0,4e8c",
   "0,591a 0,89e3 0,5929 0,4ea4 0,6620 0,7121 0,6599 0,524d 0,5f8c 0,518d 0,65b0 0,521d 0,7d42",
   "0,751f 0,8ca9 0,58f0 0,5439 0,6f14 0,6295 0,6355 0,4e00 0,4e09 0,904a 0,5de6 0,4e2d 0,53f3",
   "0,6307 0,8d70 0,6253 0,7981 0,7a7a 0,5408 0,6e80 0,6709 0,6708 0,7533 0,5272 0,55b6 0,914d",
   "4,3014.672c.3015 0,3014.4e09.3015 0,3014.4e8c.3015 0,3014.5b89.3015 0,3014.70b9.3015",
   "0,3014.6253.3015 0,3014.76d7.3015 0,3014.52dd.3015 0,3014.6557.3015 7,5f97 0,53ef 99e+a,30",
   "fc06,4e3d 0,4e38 0,4e41 0,20122 0,4f60 0,4fae 0,4fbb 0,5002 0,507a 0,5099 0,50e7 0,50cf",
   "0,349e 0,2063a 0,514d 0,5154 0,5164 0,5177 0,2051c 0,34b9 0,5167 0,518d 0,2054b 0,5197",
   "0,51a4 0,4ecc 0,51ac 0,51b5 0,291df 0,51f5 0,5203 0,34df 0,523b 0,5246 0,5272 0,5277 0,3515",
   "0,52c7 0,52c9 0,52e4 0,52fa 0+2,5305 0,5317 0,5349 0,5351 0,535a 0,5373 0,537d 0,537f 0,537f",
   "0,537f 0,20a2c 0,7070 0,53ca 0,53df 0,20b63 0,53eb 0,53f1 0,5406 0,549e 0,5438 0,5448 0,5468",
   "0,54a2 0,54f6 0,5510 0,5553 0,5563 0,5584 0,5584 0,5599 0,55ab 0,55b3 0,55c2 0,5716 0,5606",
   "0,5717 0,5651 0,5674 0,5207 0,58ee 0,57ce 0,57f4 0,580d 0,578b 0,5832 0,5831 0,58ac 0,214e4",
   "0,58f2 0,58f7 0,5906 0,591a 0,5922 0,5962 0,216a8 0,216ea 0,59ec 0,5a1b 0,5a27 0,59d8 0,5a66",
   "0,36ee 0,36fc 0,5b08 0,5b3e 0,5b3e 0,219c8 0,5bc3 0,5bd8 0,5be7 0,5bf3 0,21b18 0,5bff 0,5c06",
   "0,5f53 0,5c22 0,3781 0,5c60 0,5c6e 0,5cc0 0,5c8d 0,21de4 0,5d43 0,21de6 0,5d6e 0,5d6b 0,5d7c",
   "0+2,5de1 0,382f 0,5dfd 0,5e28 0,5e3d 0,5e69 0,3862 0,22183 0,387c 0,5eb0 0,5eb3 0,5eb6",
   "0,5eca 0,2a392 0,5efe 0,22331 0,22331 0,8201 0,5f22 0,5f22 0,38c7 0,232b8 0,261da 0,5f62",
   "0,5f6b 0,38e3 0,5f9a 0,5fcd 0,5fd7 0,5ff9 0,6081 0,393a 0,391c 0,6094 0,226d4 0,60c7 0,6148",
   "0,614c 0,614e 0,614c 0,617a 0,618e 0,61b2 0,61a4 0,61af 0,61de 0,61f2 0,61f6 0,6210 0,621b",
   "0,625d 0,62b1 0,62d4 0,6350 0,22b0c 0,633d 0,62fc 0,6368 0,6383 0,63e4 0,22bf1 0,6422 0,63c5",
   "0,63a9 0,3a2e 0,6469 0,647e 0,649d 0,6477 0,3a6c 0,654f 0,656c 0,2300a 0,65e3 0,66f8 0,6649",
   "0,3b19 0,6691 0,3b08 0,3ae4 0,5192 0,5195 0,6700 0,669c 0,80ad 0,43d9 0,6717 0,671b 0,6721",
   "0,675e 0,6753 0,233c3 0,3b49 0,67fa 0,6785 0,6852 0,6885 0,2346d 0,688e 0,681f 0,6914 0,3b9d",
   "0,6942 0,69a3 0,69ea 0,6aa8 0,236a3 0,6adb 0,3c18 0,6b21 0,238a7 0,6b54 0,3c4e 0,6b72 0,6b9f",
   "0+2,6bba 0,23a8d 0,21d0b 0,23afa 0,6c4e 0,23cbc 0,6cbf 0,6ccd 0,6c67 0,6d16 0,6d3e 0,6d77",
   "0,6d41 0,6d69 0,6d78 0,6d85 0,23d1e 0,6d34 0,6e2f 0,6e6e 0,3d33 0,6ecb 0,6ec7 0,23ed1 0,6df9",
   "0,6f6e 0,23f5e 0,23f8e 0,6fc6 0,7039 0,701e 0,701b 0,3d96 0,704a 0,707d 0,7077 0,70ad",
   "0,20525 0,7145 0,24263 0,719c 0,243ab 0,7228 0,7235 0,7250 0,24608 0,7280 0,7295 0,24735",
   "0,24814 0,737a 0,738b 0,3eac 0,73a5 0,3eb8 0,3eb8 0,7447 0,745c 0,7471 0,7485 0,74ca 0,3f1b",
   "0,7524 0,24c36 0,753e 0,24c92 0,7570 0,2219f 0,7610 0,24fa1 0,24fb8 0,25044 0,3ffc 0,4008",
   "0,76f4 0,250f3 0,250f2 0,25119 0,25133 0+2,771e 0,771f 0,774a 0,4039 0,778b 0,4046 0,4096",
   "0,2541d 0,784e 0,788c 0,78cc 0,40e3 0,25626 0,7956 0,2569a 0,256c5 0,798f 0,79eb 0,412f",
   "0,7a40 0,7a4a 0,7a4f 0,2597c 0,25aa7 0,25aa7 0,7aee 0,4202 0,25bab 0,7bc6 0,7bc9 0,4227",
   "0,25c80 0,7cd2 0,42a0 0,7ce8 0,7ce3 0,7d00 0,25f86 0,7d63 0,4301 0,7dc7 0,7e02 0,7e45 0,4334",
   "0,26228 0,26247 0,4359 0,262d9 0,7f7a 0,2633e 0,7f95 0,7ffa 0,8005 0,264da 0,26523 0,8060",
   "0,265a8 0,8070 0,2335f 0,43d5 0,80b2 0,8103 0,440b 0,813e 0,5ab5 0,267a7 0,267b5 0,23393",
   "0,2339c 0,8201 0,8204 0,8f9e 0,446b 0,8291 0,828b 0,829d 0,52b3 0,82b1 0,82b3 0,82bd 0,82e6",
   "0,26b3c 0,82e5 0,831d 0,8363 0,83ad 0,8323 0,83bd 0,83e7 0,8457 0,8353 0,83ca 0,83cc 0,83dc",
   "0,26c36 0,26d6b 0,26cd5 0,452b 0,84f1 0,84f3 0,8516 0,273ca 0,8564 0,26f2c 0,455d 0,4561",
   "0,26fb1 0,270d2 0,456b 0,8650 0,865c 0,8667 0,8669 0,86a9 0,8688 0,870e 0,86e2 0,8779 0,8728",
   "0,876b 0,8786 0,45d7 0,87e1 0,8801 0,45f9 0,8860 0,8863 0,27667 0,88d7 0,88de 0,4635 0,88fa",
   "0,34bb 0,278ae 0,27966 0,46be 0,46c7 0,8aa0 0,8aed 0,8b8a 0,8c55 0,27ca8 0,8cab 0,8cc1",
   "0,8d1b 0,8d77 0,27f2f 0,20804 0,8dcb 0,8dbc 0,8df0 0,208de 0,8ed4 0,8f38 0,285d2 0,285ed",
   "0,9094 0,90f1 0,9111 0,2872e 0,911b 0,9238 0+2,92d7 0,927c 0,93f9 0,9415 0,28bfa 0,958b",
   "0,4995 0,95b7 0,28d77 0,49e6 0,96c3 0,5db2 0,9723 0,29145 0,2921a 0,4a6e 0,4a76 0,97e0",
   "0,2940a 0,4ab2 0,29496 0,980b 0,980b 0,9829 0,295b6 0,98e2 0,4b33 0,9929 0,99a7 0,99c2",
   "0,99fe 0,4bce 0,29b30 0,9b12 0,9c40 0,9cfd 0,4cce 0,4ced 0,9d67 0,2a0ce 0,4cf8 0,2a105",
   "0,2a20e 0,2a291 0,9ebb 0,4d56 0,9ef9 0,9efe 0,9f05 0,9f0f 0,9f16 0,9f3b 0,2a600"]

/-- Characters with a combining class other than zero. -/
def markRows : List String :=
  ["300.4f 1.20 113.5 109.2d 1.1 1.2 1.2 1.1 48.b 30.15 10.1 65.7 2.6 2.2 1.4 23.1 1e.1b a0.9",
   "9.1 18.4 1.9 1.3 1.5 2b.3 3c.8 2a.18 1.1d 3c.1 10.1 3.4 67.1 10.1 30.1 3d.1 10.1 6e.1 10.1",
   "6e.1 10.1 7f.1 6e.1 10.1 7.2 65.1 10.1 6d.2 10.1 7c.1 6d.3 d.4 6c.3 d.4 4c.2 1b.1 1.1 1.1",
   "37.2 1.1 5.4 2.1 1.3 1.2 3e.1 70.1 1.2 52.1 2cf.3 3b4.2 1e.1 9d.1 a.1 cb.1 8f.3 db.2 47.1",
   "14.8 2.1 30.e 1.10 65.1 f.1 26.9 36.2 3a.1 b.2 43.1 98.3 1.d 1.7 4.1 6.1 3.2 c6.40 2d0.d 4.1",
   "3.c bfe.3 8d.1 60.20 22a.6 69.2 75d4.1 4.a 20.2 50.2 114.1 25.1 97.1 1b.12 39.3 25.1 5f.1",
   "c.1 ef.1 1.3 2.2 5.2 1.1 34.1 f6.1 4f30.1 301.10 3cd.1 e2.1 95.5 692.1 1.1 28.3 4.1 a5.2",
   "23d.4 183.2 99.b 31.4 c0.1 29.1 e.1 39.2 45.3 30.2 3e.1 4c.1 9.1 6a.2 b2.2 50.2 10.1 18.7",
   "3.5 cd.1 3.1 17.1 63.2 fb.2 7e.1 76.2 73.1 10d.2 102.2 4.1 9c.1 53.1 12.1 51.1 1a5.1 102.1",
   "1.2 51.1 4d58.5 3b.7 4b9.2 4cac.1 14c6.5 3.6 8.8 2.7 1e.4 94.3 dbb.7 1.11 2.7 1.2 1.5 105.7",
   "177.1 3d.4 5e0.7 6d.7"]

end SdkGen.Text.Table
