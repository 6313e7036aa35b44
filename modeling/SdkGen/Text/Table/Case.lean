/-!
# Case mappings

The full upper-case and lower-case mappings of the characters outside ASCII, and the two classes that
decide the form of a final sigma.
-/

namespace SdkGen.Text.Table

/-- Characters and their upper-case forms. -/
def upperRows : List String :=
  ["b5,39c 29,53.53 0+17,c0 1+7,d8 0,178 1,100 1,102 1,104 1,106 1,108 1,10a 1,10c 1,10e 1,110",
   "1,112 1,114 1,116 1,118 1,11a 1,11c 1,11e 1,120 1,122 1,124 1,126 1,128 1,12a 1,12c 1,12e",
   "1,49 1,132 1,134 1,136 2,139 1,13b 1,13d 1,13f 1,141 1,143 1,145 1,147 0,2bc.4e 1,14a 1,14c",
   "1,14e 1,150 1,152 1,154 1,156 1,158 1,15a 1,15c 1,15e 1,160 1,162 1,164 1,166 1,168 1,16a",
   "1,16c 1,16e 1,170 1,172 1,174 1,176 2,179 1,17b 1,17d 0,53 0,243 2,182 1,184 2,187 3,18b",
   "5,191 2,1f6 3,198 0,23d 3,220 2,1a0 1,1a2 1,1a4 2,1a7 4,1ac 2,1af 3,1b3 1,1b5 2,1b8 3,1bc",
   "1,1f7 5,1c4 0,1c4 1,1c7 0,1c7 1,1ca 0,1ca 1,1cd 1,1cf 1,1d1 1,1d3 1,1d5 1,1d7 1,1d9 1,1db",
   "0,18e 1,1de 1,1e0 1,1e2 1,1e4 1,1e6 1,1e8 1,1ea 1,1ec 1,1ee 0,4a.30c 1,1f1 0,1f1 1,1f4 3,1f8",
   "1,1fa 1,1fc 1,1fe 1,200 1,202 1,204 1,206 1,208 1,20a 1,20c 1,20e 1,210 1,212 1,214 1,216",
   "1,218 1,21a 1,21c 1,21e 3,222 1,224 1,226 1,228 1,22a 1,22c 1,22e 1,230 1,232 8,23b 2+2,2c7e",
   "1,241 4,246 1,248 1,24a 1,24c 1,24e 0,2c6f 0,2c6d 0,2c70 0,181 0,186 1+2,189 1,18f 1,190",
   "0,a7ab 3,193 0,a7ac 1,194 1,a78d 0,a7aa 1,197 0,196 0,a7ae 0,2c62 0,a7ad 2,19c 1,2c6e 0,19d",
   "2,19f 7,2c64 2,1a6 1,a7c5 0,1a9 3,a7b1 0,1ae 0,244 0+2,1b1 0,245 5,1b7 a,a7b2 0,a7b0 a6,399",
   "2b,370 1,372 3,376 3+3,3fd 12,399.308.301 1b,386 0+3,388 0,3a5.308.301 0+11,391 0,3a3",
   "0+9,3a3 0,38c 0+2,38e 1,392 0,398 3,3a6 0,3a0 0,3cf 1,3d8 1,3da 1,3dc 1,3de 1,3e0 1,3e2",
   "1,3e4 1,3e6 1,3e8 1,3ea 1,3ec 1,3ee 0,39a 0,3a1 0,3f9 0,37f 1,395 2,3f7 2,3fa 34+20,410",
   "0+10,400 1,460 1,462 1,464 1,466 1,468 1,46a 1,46c 1,46e 1,470 1,472 1,474 1,476 1,478 1,47a",
   "1,47c 1,47e 1,480 9,48a 1,48c 1,48e 1,490 1,492 1,494 1,496 1,498 1,49a 1,49c 1,49e 1,4a0",
   "1,4a2 1,4a4 1,4a6 1,4a8 1,4aa 1,4ac 1,4ae 1,4b0 1,4b2 1,4b4 1,4b6 1,4b8 1,4ba 1,4bc 1,4be",
   "2,4c1 1,4c3 1,4c5 1,4c7 1,4c9 1,4cb 1,4cd 0,4c0 1,4d0 1,4d2 1,4d4 1,4d6 1,4d8 1,4da 1,4dc",
   "1,4de 1,4e0 1,4e2 1,4e4 1,4e6 1,4e8 1,4ea 1,4ec 1,4ee 1,4f0 1,4f2 1,4f4 1,4f6 1,4f8 1,4fa",
   "1,4fc 1,4fe 1,500 1,502 1,504 1,506 1,508 1,50a 1,50c 1,50e 1,510 1,512 1,514 1,516 1,518",
   "1,51a 1,51c 1,51e 1,520 1,522 1,524 1,526 1,528 1,52a 1,52c 1,52e 31+26,531 0,535.552",
   "b48+2b,1c90 2+3,1cbd 2f8+6,13f0 882,412 0,414 0,41e 0+2,421 0,422 0,42a 0,462 0,a64a f0,a77d",
   "3,2c63 10,a7c6 72,1e00 1,1e02 1,1e04 1,1e06 1,1e08 1,1e0a 1,1e0c 1,1e0e 1,1e10 1,1e12 1,1e14",
   "1,1e16 1,1e18 1,1e1a 1,1e1c 1,1e1e 1,1e20 1,1e22 1,1e24 1,1e26 1,1e28 1,1e2a 1,1e2c 1,1e2e",
   "1,1e30 1,1e32 1,1e34 1,1e36 1,1e38 1,1e3a 1,1e3c 1,1e3e 1,1e40 1,1e42 1,1e44 1,1e46 1,1e48",
   "1,1e4a 1,1e4c 1,1e4e 1,1e50 1,1e52 1,1e54 1,1e56 1,1e58 1,1e5a 1,1e5c 1,1e5e 1,1e60 1,1e62",
   "1,1e64 1,1e66 1,1e68 1,1e6a 1,1e6c 1,1e6e 1,1e70 1,1e72 1,1e74 1,1e76 1,1e78 1,1e7a 1,1e7c",
   "1,1e7e 1,1e80 1,1e82 1,1e84 1,1e86 1,1e88 1,1e8a 1,1e8c 1,1e8e 1,1e90 1,1e92 1,1e94 0,48.331",
   "0,54.308 0,57.30a 0,59.30a 0,41.2be 0,1e60 5,1ea0 1,1ea2 1,1ea4 1,1ea6 1,1ea8 1,1eaa 1,1eac",
   "1,1eae 1,1eb0 1,1eb2 1,1eb4 1,1eb6 1,1eb8 1,1eba 1,1ebc 1,1ebe 1,1ec0 1,1ec2 1,1ec4 1,1ec6",
   "1,1ec8 1,1eca 1,1ecc 1,1ece 1,1ed0 1,1ed2 1,1ed4 1,1ed6 1,1ed8 1,1eda 1,1edc 1,1ede 1,1ee0",
   "1,1ee2 1,1ee4 1,1ee6 1,1ee8 1,1eea 1,1eec 1,1eee 1,1ef0 1,1ef2 1,1ef4 1,1ef6 1,1ef8 1,1efa",
   "1,1efc 1,1efe 0+8,1f08 8+6,1f18 a+8,1f28 8+8,1f38 8+6,1f48 a,3a5.313 0,1f59 0,3a5.313.300",
   "0,1f5b 0,3a5.313.301 0,1f5d 0,3a5.313.342 0,1f5f 8+8,1f68 8+2,1fba 0+4,1fc8 0+2,1fda",
   "0+2,1ff8 0+2,1fea 0+2,1ffa 2,1f08.399 0,1f09.399 0,1f0a.399 0,1f0b.399 0,1f0c.399 0,1f0d.399",
   "0,1f0e.399 0,1f0f.399 0,1f08.399 0,1f09.399 0,1f0a.399 0,1f0b.399 0,1f0c.399 0,1f0d.399",
   "0,1f0e.399 0,1f0f.399 0,1f28.399 0,1f29.399 0,1f2a.399 0,1f2b.399 0,1f2c.399 0,1f2d.399",
   "0,1f2e.399 0,1f2f.399 0,1f28.399 0,1f29.399 0,1f2a.399 0,1f2b.399 0,1f2c.399 0,1f2d.399",
   "0,1f2e.399 0,1f2f.399 0,1f68.399 0,1f69.399 0,1f6a.399 0,1f6b.399 0,1f6c.399 0,1f6d.399",
   "0,1f6e.399 0,1f6f.399 0,1f68.399 0,1f69.399 0,1f6a.399 0,1f6b.399 0,1f6c.399 0,1f6d.399",
   "0,1f6e.399 0,1f6f.399 0+2,1fb8 0,1fba.399 0,391.399 0,386.399 1,391.342 0,391.342.399",
   "4,391.399 1,399 3,1fca.399 0,397.399 0,389.399 1,397.342 0,397.342.399 4,397.399 3+2,1fd8",
   "0,399.308.300 0,399.308.301 2,399.342 0,399.308.342 8+2,1fe8 0,3a5.308.300 0,3a5.308.301",
   "0,3a1.313 0,1fec 0,3a5.342 0,3a5.308.342 a,1ffa.399 0,3a9.399 0,38f.399 1,3a9.342",
   "0,3a9.342.399 4,3a9.399 151,2132 21+10,2160 4,2183 34b+1a,24b6 746+30,2c00 1,2c60 3,23a",
   "0,23e 1,2c67 1,2c69 1,2c6b 6,2c72 2,2c75 a,2c80 1,2c82 1,2c84 1,2c86 1,2c88 1,2c8a 1,2c8c",
   "1,2c8e 1,2c90 1,2c92 1,2c94 1,2c96 1,2c98 1,2c9a 1,2c9c 1,2c9e 1,2ca0 1,2ca2 1,2ca4 1,2ca6",
   "1,2ca8 1,2caa 1,2cac 1,2cae 1,2cb0 1,2cb2 1,2cb4 1,2cb6 1,2cb8 1,2cba 1,2cbc 1,2cbe 1,2cc0",
   "1,2cc2 1,2cc4 1,2cc6 1,2cc8 1,2cca 1,2ccc 1,2cce 1,2cd0 1,2cd2 1,2cd4 1,2cd6 1,2cd8 1,2cda",
   "1,2cdc 1,2cde 1,2ce0 1,2ce2 8,2ceb 1,2ced 4,2cf2 c+26,10a0 1,10c7 5,10cd 7913,a640 1,a642",
   "1,a644 1,a646 1,a648 1,a64a 1,a64c 1,a64e 1,a650 1,a652 1,a654 1,a656 1,a658 1,a65a 1,a65c",
   "1,a65e 1,a660 1,a662 1,a664 1,a666 1,a668 1,a66a 1,a66c 13,a680 1,a682 1,a684 1,a686 1,a688",
   "1,a68a 1,a68c 1,a68e 1,a690 1,a692 1,a694 1,a696 1,a698 1,a69a 87,a722 1,a724 1,a726 1,a728",
   "1,a72a 1,a72c 1,a72e 3,a732 1,a734 1,a736 1,a738 1,a73a 1,a73c 1,a73e 1,a740 1,a742 1,a744",
   "1,a746 1,a748 1,a74a 1,a74c 1,a74e 1,a750 1,a752 1,a754 1,a756 1,a758 1,a75a 1,a75c 1,a75e",
   "1,a760 1,a762 1,a764 1,a766 1,a768 1,a76a 1,a76c 1,a76e a,a779 1,a77b 2,a77e 1,a780 1,a782",
   "1,a784 1,a786 4,a78b 4,a790 1,a792 0,a7c4 2,a796 1,a798 1,a79a 1,a79c 1,a79e 1,a7a0 1,a7a2",
   "1,a7a4 1,a7a6 1,a7a8 b,a7b4 1,a7b6 1,a7b8 1,a7ba 1,a7bc 1,a7be 1,a7c0 1,a7c2 4,a7c7 1,a7c9",
   "6,a7d0 5,a7d6 1,a7d8 1c,a7f5 35c,a7b3 1c+50,13a0 4f40,46.46 0,46.49 0,46.4c 0,46.46.49",
   "0,46.46.4c 0,53.54 0,53.54 c,544.546 0,544.535 0,544.53b 0,54e.546 0,544.53d 429+1a,ff21",
   "4cd+28,10400 88+24,104b0 9b+b,10570 1+f,1057c 1+7,1058c 1+2,10594 703+33,10c80 bcd+20,118a0",
   "5580+20,16e40 7aa2+22,1e900"]

/-- Characters and their lower-case forms. -/
def lowerRows : List String :=
  ["c0+17,e0 1+7,f8 21,101 1,103 1,105 1,107 1,109 1,10b 1,10d 1,10f 1,111 1,113 1,115 1,117",
   "1,119 1,11b 1,11d 1,11f 1,121 1,123 1,125 1,127 1,129 1,12b 1,12d 1,12f 1,69.307 1,133 1,135",
   "1,137 2,13a 1,13c 1,13e 1,140 1,142 1,144 1,146 1,148 2,14b 1,14d 1,14f 1,151 1,153 1,155",
   "1,157 1,159 1,15b 1,15d 1,15f 1,161 1,163 1,165 1,167 1,169 1,16b 1,16d 1,16f 1,171 1,173",
   "1,175 1,177 1,ff 0,17a 1,17c 1,17e 3,253 0,183 1,185 1,254 0,188 1+2,256 0,18c 2,1dd 0,259",
   "0,25b 0,192 1,260 0,263 1,269 0,268 0,199 3,26f 0,272 1,275 0,1a1 1,1a3 1,1a5 1,280 0,1a8",
   "1,283 2,1ad 1,288 0,1b0 1+2,28a 0,1b4 1,1b6 1,292 0,1b9 3,1bd 7,1c6 0,1c6 1,1c9 0,1c9 1,1cc",
   "0,1cc 1,1ce 1,1d0 1,1d2 1,1d4 1,1d6 1,1d8 1,1da 1,1dc 2,1df 1,1e1 1,1e3 1,1e5 1,1e7 1,1e9",
   "1,1eb 1,1ed 1,1ef 2,1f3 0,1f3 1,1f5 1,195 0,1bf 0,1f9 1,1fb 1,1fd 1,1ff 1,201 1,203 1,205",
   "1,207 1,209 1,20b 1,20d 1,20f 1,211 1,213 1,215 1,217 1,219 1,21b 1,21d 1,21f 1,19e 1,223",
   "1,225 1,227 1,229 1,22b 1,22d 1,22f 1,231 1,233 7,2c65 0,23c 1,19a 0,2c66 2,242 1,180 0,289",
   "0,28c 0,247 1,249 1,24b 1,24d 1,24f 121,371 1,373 3,377 8,3f3 6,3ac 1+3,3ad 1,3cc 1+2,3cd",
   "1+11,3b1 1+9,3c3 23,3d7 8,3d9 1,3db 1,3dd 1,3df 1,3e1 1,3e3 1,3e5 1,3e7 1,3e9 1,3eb 1,3ed",
   "1,3ef 5,3b8 2,3f8 1,3f2 0,3fb 2+3,37b 0+10,450 0+20,430 30,461 1,463 1,465 1,467 1,469 1,46b",
   "1,46d 1,46f 1,471 1,473 1,475 1,477 1,479 1,47b 1,47d 1,47f 1,481 9,48b 1,48d 1,48f 1,491",
   "1,493 1,495 1,497 1,499 1,49b 1,49d 1,49f 1,4a1 1,4a3 1,4a5 1,4a7 1,4a9 1,4ab 1,4ad 1,4af",
   "1,4b1 1,4b3 1,4b5 1,4b7 1,4b9 1,4bb 1,4bd 1,4bf 1,4cf 0,4c2 1,4c4 1,4c6 1,4c8 1,4ca 1,4cc",
   "1,4ce 2,4d1 1,4d3 1,4d5 1,4d7 1,4d9 1,4db 1,4dd 1,4df 1,4e1 1,4e3 1,4e5 1,4e7 1,4e9 1,4eb",
   "1,4ed 1,4ef 1,4f1 1,4f3 1,4f5 1,4f7 1,4f9 1,4fb 1,4fd 1,4ff 1,501 1,503 1,505 1,507 1,509",
   "1,50b 1,50d 1,50f 1,511 1,513 1,515 1,517 1,519 1,51b 1,51d 1,51f 1,521 1,523 1,525 1,527",
   "1,529 1,52b 1,52d 1,52f 2+26,561 b49+26,2d00 1,2d27 5,2d2d 2d2+50,ab70 0+6,13f8 89a+2b,10d0",
   "2+3,10fd 140,1e01 1,1e03 1,1e05 1,1e07 1,1e09 1,1e0b 1,1e0d 1,1e0f 1,1e11 1,1e13 1,1e15",
   "1,1e17 1,1e19 1,1e1b 1,1e1d 1,1e1f 1,1e21 1,1e23 1,1e25 1,1e27 1,1e29 1,1e2b 1,1e2d 1,1e2f",
   "1,1e31 1,1e33 1,1e35 1,1e37 1,1e39 1,1e3b 1,1e3d 1,1e3f 1,1e41 1,1e43 1,1e45 1,1e47 1,1e49",
   "1,1e4b 1,1e4d 1,1e4f 1,1e51 1,1e53 1,1e55 1,1e57 1,1e59 1,1e5b 1,1e5d 1,1e5f 1,1e61 1,1e63",
   "1,1e65 1,1e67 1,1e69 1,1e6b 1,1e6d 1,1e6f 1,1e71 1,1e73 1,1e75 1,1e77 1,1e79 1,1e7b 1,1e7d",
   "1,1e7f 1,1e81 1,1e83 1,1e85 1,1e87 1,1e89 1,1e8b 1,1e8d 1,1e8f 1,1e91 1,1e93 1,1e95 9,df",
   "1,1ea1 1,1ea3 1,1ea5 1,1ea7 1,1ea9 1,1eab 1,1ead 1,1eaf 1,1eb1 1,1eb3 1,1eb5 1,1eb7 1,1eb9",
   "1,1ebb 1,1ebd 1,1ebf 1,1ec1 1,1ec3 1,1ec5 1,1ec7 1,1ec9 1,1ecb 1,1ecd 1,1ecf 1,1ed1 1,1ed3",
   "1,1ed5 1,1ed7 1,1ed9 1,1edb 1,1edd 1,1edf 1,1ee1 1,1ee3 1,1ee5 1,1ee7 1,1ee9 1,1eeb 1,1eed",
   "1,1eef 1,1ef1 1,1ef3 1,1ef5 1,1ef7 1,1ef9 1,1efb 1,1efd 1,1eff 9+8,1f00 8+6,1f10 a+8,1f20",
   "8+8,1f30 8+6,1f40 b,1f51 1,1f53 1,1f55 1,1f57 8+8,1f60 18+8,1f80 8+8,1f90 8+8,1fa0 8+2,1fb0",
   "0+2,1f70 0,1fb3 b+4,1f72 0,1fc3 b+2,1fd0 0+2,1f76 c+2,1fe0 0+2,1f7a 0,1fe5 b+2,1f78 0+2,1f7c",
   "0,1ff3 129,3c9 3,6b 0,e5 6,214e 2d+10,2170 13,2184 332+1a,24d0 730+30,2c30 30,2c61 1,26b",
   "0,1d7d 0,27d 2,2c68 1,2c6a 1,2c6c 1,251 0,271 0,250 0,252 1,2c73 2,2c76 8+2,23f 0,2c81",
   "1,2c83 1,2c85 1,2c87 1,2c89 1,2c8b 1,2c8d 1,2c8f 1,2c91 1,2c93 1,2c95 1,2c97 1,2c99 1,2c9b",
   "1,2c9d 1,2c9f 1,2ca1 1,2ca3 1,2ca5 1,2ca7 1,2ca9 1,2cab 1,2cad 1,2caf 1,2cb1 1,2cb3 1,2cb5",
   "1,2cb7 1,2cb9 1,2cbb 1,2cbd 1,2cbf 1,2cc1 1,2cc3 1,2cc5 1,2cc7 1,2cc9 1,2ccb 1,2ccd 1,2ccf",
   "1,2cd1 1,2cd3 1,2cd5 1,2cd7 1,2cd9 1,2cdb 1,2cdd 1,2cdf 1,2ce1 1,2ce3 8,2cec 1,2cee 4,2cf3",
   "794d,a641 1,a643 1,a645 1,a647 1,a649 1,a64b 1,a64d 1,a64f 1,a651 1,a653 1,a655 1,a657",
   "1,a659 1,a65b 1,a65d 1,a65f 1,a661 1,a663 1,a665 1,a667 1,a669 1,a66b 1,a66d 13,a681 1,a683",
   "1,a685 1,a687 1,a689 1,a68b 1,a68d 1,a68f 1,a691 1,a693 1,a695 1,a697 1,a699 1,a69b 87,a723",
   "1,a725 1,a727 1,a729 1,a72b 1,a72d 1,a72f 3,a733 1,a735 1,a737 1,a739 1,a73b 1,a73d 1,a73f",
   "1,a741 1,a743 1,a745 1,a747 1,a749 1,a74b 1,a74d 1,a74f 1,a751 1,a753 1,a755 1,a757 1,a759",
   "1,a75b 1,a75d 1,a75f 1,a761 1,a763 1,a765 1,a767 1,a769 1,a76b 1,a76d 1,a76f a,a77a 1,a77c",
   "1,1d79 0,a77f 1,a781 1,a783 1,a785 1,a787 4,a78c 1,265 2,a791 1,a793 3,a797 1,a799 1,a79b",
   "1,a79d 1,a79f 1,a7a1 1,a7a3 1,a7a5 1,a7a7 1,a7a9 1,266 0,25c 0,261 0,26c 0,26a 1,29e 0,287",
   "0,29d 0,ab53 0,a7b5 1,a7b7 1,a7b9 1,a7bb 1,a7bd 1,a7bf 1,a7c1 1,a7c3 1,a794 0,282 0,1d8e",
   "0,a7c8 1,a7ca 6,a7d1 5,a7d7 1,a7d9 1c,a7f6 572b+1a,ff41 4c5+28,10428 88+24,104d8 9c+b,10597",
   "1+f,105a3 1+7,105b3 1+2,105bb 6ea+33,10cc0 bed+20,118c0 5580+20,16e60 7aa0+22,1e922"]

/-- Characters that have a case. -/
def casedRows : List String :=
  ["aa.1 a.1 4.1 5.17 1.1f 1.c3 1.4 4.d0 1.1b c0.4 2.2 3.3 1.1 6.1 1.3 1.1 1.14 1.53 1.8b 8.a6",
   "1.26 9.29 b17.26 1.1 5.1 2.2b 2.3 2a0.56 2.6 882.9 7.2b 2.3 40.2c 3f.d 1.22 65.116 2.6 2.26",
   "2.6 2.8 1.1 1.1 1.1 1.1f 2.35 1.7 1.1 3.3 1.7 3.4 2.6 4.d 5.3 1.7 105.1 4.1 2.a 1.1 3.5 6.1",
   "1.1 1.1 1.4 1.6 4.1 2.4 5.5 4.1 11.20 3.2 331.34 716.7c 2.67 6.4 3.2 c.26 1.1 5.1 7912.2e",
   "12.1c 86.4e 1.17 3.4 1.3b 5.2 1.1 1.5 1b.2 3.1 335.2b 5.9 7.50 4f40.7 c.5 409.1a 6.1a 4a5.50",
   "60.24 4.24 74.b 1.f 1.7 1.2 1.b 1.f 1.7 1.2 6c3.33 d.33 bad.40 5560.40 6580.55 1.47 1.2 2.1",
   "2.2 2.4 1.c 1.1 1.7 1.41 1.4 2.8 1.7 1.1c 1.4 1.5 1.1 3.7 1.154 2.19 1.19 1.1f 1.19 1.1f",
   "1.19 1.1f 1.19 1.1f 1.19 1.8 734.a 1.14 9e1.44 7ec.1a 6.1a 6.1a"]

/-- Characters that are passed over when the surroundings of a sigma are looked at. -/
def caseIgnorableRows : List String :=
  ["a8.1 4.1 1.1 4.1 2.2 1f7.c0 4.2 4.1 9.2 1.1 fb.7 cf.1 5.1 31.2d 1.1 1.2 1.2 1.1 2c.1 b.6 a.b",
   "1.1 23.1 a.15 10.1 65.8 1.a 1.4 21.1 1.1 1e.1b 5b.b 3a.b 4.1 2.1 18.18 2b.3 2c.1 7.2 6.8",
   "29.3a 37.1 1.1 4.8 4.1 3.7 a.2 d.1 f.1 3a.1 4.4 8.1 14.2 1a.1 2.2 39.1 4.2 4.2 2.3 3.1 1e.2",
   "3.1 b.2 39.1 4.5 1.2 4.1 14.2 16.6 1.1 3a.1 2.1 1.4 8.1 7.2 b.2 1e.1 3d.1 c.1 32.1 3.1 37.1",
   "1.3 5.3 1.4 7.2 b.2 1d.1 3a.1 2.1 6.1 5.2 14.2 1c.2 39.2 4.4 8.1 14.2 1d.1 48.1 7.3 1.1 5a.1",
   "2.7 b.9 62.1 2.9 9.1 1.6 4a.2 1b.1 1.1 1.1 37.e 1.5 1.2 5.b 1.24 9.1 66.4 1.6 1.2 2.2 19.2",
   "4.3 10.4 d.1 2.2 6.1 f.1 5e.1 260.3 3b2.3 1d.2 1e.2 1e.2 40.2 1.7 8.1 2.b 3.1 5.1 2d.5 33.1",
   "41.2 22.1 76.3 4.2 9.1 6.3 db.2 2.1 3a.1 1.7 1.1 1.1 2.8 6.a 2.1 27.1 8.1f 31.4 30.1 1.5 1.1",
   "5.1 28.9 c.2 20.4 2.2 1.3 38.1 1.2 3.1 1.3 3a.8 2.2 40.6 52.3 1.d 1.7 4.1 6.1 3.2 32.3f d.1",
   "22.65 1bd.1 1.3 b.3 d.3 d.3 d.2 c.5 8.2 a.1 2.1 2.5 31.5 1.a 1.1 d.1 10.d 33.21 b8b.2 71.3",
   "7d.1 f.1 60.20 2f.1 1d5.1 24.4 3.5 5.1 5d.6 5d.3 6f16.1 4e2.6 10e.1 62.4 1.a 1.1 1c.4 50.2",
   "e.22 4e.1 17.3 67.3 3.2 8.1 3.1 4.1 19.2 5.1 97.2 1a.12 d.1 26.8 19.b 2e.3 30.1 2.4 2.2 11.1",
   "15.2 42.6 2.2 2.2 c.1 8.1 23.1 b.1 33.1 1.3 2.2 5.2 1.1 1b.1 e.2 5.2 1.1 64.5 9.3 79.1 2.1",
   "4.1 4f30.1 93.11 23d.10 3.1 c.10 22.1 2.1 a9.1 7.1 6.1 b.1 23.1 1.1 2f.1 2d.2 43.1 15.3",
   "201.1 e2.1 95.5 405.6 1.2a 1.9 246.3 1.2 5.4 28.3 4.1 a5.2 23d.4 183.2 99.b 31.4 7b.1 36.f",
   "29.1 2.2 a.3 31.4 2.2 2.1 4.1 a.1 32.3 24.5 1.8 3e.1 c.2 34.9 a.4 2.1 5f.3 2.1 1.2 6.1 a0.1",
   "3.8 15.2 39.2 3.1 25.7 3.5 c3.8 2.3 1.1 17.1 54.6 1.1 4.2 1.2 ee.4 6.2 1.2 1b.2 55.8 2.1 1.2",
   "6a.1 1.1 2.6 1.1 65.3 2.4 1.5 103.9 1.2 100.2 1.1 4.1 90.4 2.2 4.1 20.a 28.6 2.4 8.1 9.6 2.3",
   "2e.d 1.2 196.7 1.6 1.1 52.16 2.7 1.2 1.2 7a.6 3.1 1.2 1.7 1.1 48.2 3.1 1.1 15b.2 153b.9",
   "36b7.5 3b.7 9.4 40b.1 3f.11 40.2 1.2 400b.4 1.7 1.2 c9e.2 1.4 125c.2e 2.17 220.3 9.10 2.7",
   "1e.4 94.3 7bb.37 4.32 8.1 e.1 16.5 1.f 550.7 1.11 2.7 1.2 1.5 105.e 170.1 3d.4 5e0.7 6d.8",
   "aaf.5 c0c01.1 1e.60 80.f0"]

end SdkGen.Text.Table
