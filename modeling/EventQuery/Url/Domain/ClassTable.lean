/-!
Classes of the characters of domain names.

The tables have the form of the other tables of characters: rows of a distance, a
length and the class of a range.
-/

namespace EventQuery

/-- The marks that belong to the character before them. -/
def combiningMarks : List String :=
  ["300,6f 114,6 108,2c 2,0 2,1 2,1 2,0 49,a 31,14 11,0 66,6 3,5 3,1 2,3 24,0 1f,1a 5c,a 3b,8",
   "a,0 19,3 2,8 2,2 2,4 2c,2 3c,8 2b,17 2,20 37,2 2,11 2,6 b,1 1e,2 39,0 2,6 3,1 3,2 a,0 b,1",
   "1b,0 3,2 39,0 2,4 5,1 3,2 4,0 1f,1 4,0 c,2 39,0 2,7 2,2 2,2 15,1 17,5 2,2 39,0 2,6 3,1 3,2",
   "8,2 b,1 1f,0 3c,4 4,2 2,3 a,0 29,4 38,0 2,6 2,2 2,3 8,1 c,1 1e,2 39,0 2,6 2,2 2,3 8,1 c,1",
   "10,0 d,3 38,1 2,6 2,2 2,3 a,0 b,1 1e,2 47,0 5,5 2,0 2,7 13,1 3e,0 3,6 d,7 63,0 3,8 c,6 4a,1",
   "1c,0 2,0 2,0 5,1 32,13 2,1 6,a 2,23 a,0 65,13 18,3 5,2 2,2 3,6 4,3 e,b 2,0 b,3 2c0,2 3b3,3",
   "1d,2 1e,1 1f,1 41,1f a,0 2e,2 2,0 76,1 23,0 77,b 5,b dc,4 3a,9 2,1c 3,0 31,2d 3,b 15,4 30,10",
   "27,8 d,2 1f,c 39,d 31,13 99,2 2,14 5,0 7,0 3,2 c7,3f 2d1,20 bff,2 8e,0 61,1f 22b,5 6a,1",
   "75d5,3 2,9 21,1 51,1 111,0 4,0 5,0 18,4 5,0 54,1 33,11 1b,11 e,0 27,7 1a,c 2d,3 30,d 25,0",
   "44,d d,0 9,1 2e,2 33,0 2,2 3,1 6,1 2,0 2a,4 6,1 ed,7 2,1 4f31,0 2e2,f 11,f 3ce,0 e3,0 96,4",
   "687,2 2,1 6,3 29,2 5,0 a6,1 23e,3 42,4 13e,1 4e,5 47,a 32,3 7b,2 36,e 2a,0 3,1 b,3 2e,a 8,0",
   "3e,2 25,d 11,1 2d,0 d,2 31,d 9,3 2,1 5d,b 7,0 3,0 9e,b 16,3 38,1 2,6 3,1 3,2 a,0 b,1 3,6 4,4",
   "44,8 2,0 3,0 2,3 2,4 2,0 f,1 53,11 18,0 52,13 ec,6 3,8 1c,1 53,10 6b,c 66,e 101,e f6,5 2,1",
   "3,3 2,0 2,1 8e,6 3,6 4,0 1d,9 29,6 2,3 9,0 a,a 2f,f c7,7 c8,7 2,7 53,15 2,d 7b,5 4,0 2,1 2,6",
   "2,0 43,4 2,1 2,4 15c,3 a,1 2,0 31,6 4,4 18,0 14e6,0 7,e 2cc9,11 9c1,4 3c,6 419,0 2,36 8,3",
   "52,0 c,1 4cac,1 1262,2d 3,16 21f,4 4,5 9,7 3,6 1f,3 95,2 7bc,36 5,31 9,0 f,0 17,4 2,e 551,6",
   "2,10 3,6 2,1 2,4 65,0 a1,6 178,0 3e,3 1fd,3 ff,1 f4,0 3,0 8,1 6,0 1db,6 6e,6 c17b6,ef"]

/-- The marks that may be reordered, with their class. -/
def combiningClasses : List String :=
  ["300,14,e6 1,0,e8 1,3,dc 1,0,e8 1,0,d8 1,4,dc 1,1,ca 1,3,dc 1,1,ca 1,a,dc 1,4,1 1,3,dc 1,7,e6",
   "1,0,f0 1,0,e6 1,2,dc 1,2,e6 1,1,dc 2,2,e6 1,3,dc 1,0,e6 1,0,e8 1,1,dc 1,0,e6 1,0,e9 1,1,ea",
   "1,0,e9 1,1,ea 1,0,e9 1,c,e6 114,4,e6 10a,0,dc 1,3,e6 1,0,dc 1,2,e6 1,0,de 1,0,dc 1,5,e6",
   "1,5,dc 1,1,e6 1,0,dc 1,1,e6 1,0,de 1,0,e4 1,0,e6 1,0,a 1,0,b 1,0,c 1,0,d 1,0,e 1,0,f 1,0,10",
   "1,0,11 1,0,12 1,1,13 1,0,14 1,0,15 1,0,16 2,0,17 2,0,18 1,0,19 2,0,e6 1,0,dc 2,0,12 49,7,e6",
   "1,0,1e 1,0,1f 1,0,20 31,0,1b 1,0,1c 1,0,1d 1,0,1e 1,0,1f 1,0,20 1,0,21 1,0,22 1,1,e6 1,1,dc",
   "1,4,e6 1,0,dc 1,1,e6 1,0,dc 11,0,23 66,6,e6 3,3,e6 1,0,dc 1,0,e6 3,1,e6 2,0,dc 1,1,e6 1,0,dc",
   "24,0,24 1f,0,e6 1,0,dc 1,1,e6 1,0,dc 1,1,e6 1,2,dc 1,0,e6 1,1,dc 1,0,e6 1,0,dc 1,2,e6 1,0,dc",
   "1,0,e6 1,0,dc 1,0,e6 1,0,dc 1,0,e6 1,0,dc 1,1,e6 a1,6,e6 1,0,dc 1,0,e6 a,0,dc 19,3,e6 2,8,e6",
   "2,2,e6 2,4,e6 2c,2,dc 3c,1,e6 1,2,dc 1,3,e6 2b,4,e6 1,4,dc 1,d,e6 2,0,dc 1,1,e6 1,0,dc",
   "1,1,e6 1,0,dc 1,2,e6 1,2,dc 1,0,1b 1,0,1c 1,0,1d 1,2,e6 1,0,dc 1,1,e6 1,1,dc 1,4,e6 3d,0,7",
   "11,0,9 4,0,e6 1,0,dc 1,1,e6 68,0,7 11,0,9 31,0,e6 3e,0,7 11,0,9 6f,0,7 11,0,9 6f,0,7 11,0,9",
   "80,0,9 6f,0,7 11,0,9 8,0,54 1,0,5b 66,0,7 11,0,9 6e,1,9 11,0,9 7d,0,9 6e,1,67 1,0,9 e,3,6b",
   "6d,1,76 1,0,9 e,3,7a 4d,1,dc 1c,0,dc 2,0,dc 2,0,d8 38,0,81 1,0,82 2,0,84 6,3,82 3,0,82",
   "2,1,e6 1,0,9 2,1,e6 3f,0,dc 71,0,7 2,1,9 53,0,dc 2d0,2,e6 3b5,1,9 1f,0,9 9e,0,9 b,0,e6",
   "cc,0,e4 90,0,de 1,0,e6 1,0,dc dc,0,e6 1,0,dc 48,0,9 15,7,e6 3,0,dc 31,4,e6 1,5,dc 1,1,e6",
   "1,0,dc 2,1,dc 1,1,e6 1,1,dc 1,4,e6 1,0,dc 1,11,e6 1,0,dc 3,5,e6 1,0,dc 1,3,e6 1,0,ea 49,0,7",
   "10,0,9 27,0,e6 1,0,dc 1,6,e6 37,1,9 3b,0,7 c,1,9 44,0,7 99,2,e6 2,0,1 1,4,dc 1,1,e6 1,3,dc",
   "1,0,e6 2,6,1 5,0,dc 7,0,e6 4,1,e6 c7,1,e6 1,0,dc 1,6,e6 1,0,dc 1,1,e6 1,0,ea 1,0,d6 1,0,dc",
   "1,0,ca 1,24,e6 1,0,e8 1,1,e4 1,0,dc 1,0,da 1,0,e6 1,0,e9 1,0,dc 1,0,e6 1,0,dc 2d1,1,e6 1,1,1",
   "1,3,e6 1,2,1 1,1,e6 5,0,e6 4,1,1 1,0,e6 1,0,dc 1,0,e6 1,1,1 1,3,dc 1,0,e6 bff,2,e6 8e,0,9",
   "61,1f,e6 22b,0,da 1,0,e4 1,0,e8 1,0,de 1,1,e0 6a,1,8 75d5,0,e6 5,9,e6 21,1,e6 51,1,e6",
   "115,0,9 26,0,9 98,0,9 1c,11,e6 3a,2,dc 26,0,9 60,0,7 d,0,9 f0,0,e6 2,1,e6 1,0,dc 3,1,e6",
   "6,1,e6 2,0,e6 35,0,9 f7,0,9 4f31,0,1a 302,6,e6 1,6,dc 1,1,e6 3ce,0,dc e3,0,dc 96,4,e6",
   "693,0,dc 2,0,e6 29,0,e6 1,0,1 1,0,dc 5,0,9 a6,0,e6 1,0,dc 23e,3,e6 42,4,e6 13e,1,e6 4e,1,dc",
   "2,2,dc 47,1,dc 1,2,e6 1,0,dc 1,0,e6 1,3,dc 32,0,e6 1,0,dc 1,0,e6 1,0,dc c1,0,9 2a,0,9 f,0,9",
   "3a,0,9 1,0,7 46,2,e6 31,1,9 3f,0,7 4d,0,9 a,0,7 6b,0,9 1,0,7 b3,0,7 1,0,9 51,1,7 11,0,9",
   "19,6,e6 4,4,e6 5a,2,9 72,0,9 4,0,7 18,0,e6 64,0,9 1,0,7 fc,0,9 1,0,7 7f,0,9 77,0,9 1,0,7",
   "74,0,9 10e,0,9 1,0,7 103,1,9 5,0,7 9d,0,9 54,0,9 13,0,9 52,0,9 1a6,0,9 103,0,7 2,1,9 52,0,9",
   "1aa,1,9 41ed,0,9 9c1,4,1 3c,6,e6 4ba,1,6 4cad,0,1 14c7,1,d8 1,2,1 4,0,e2 1,4,d8 9,7,dc",
   "3,4,e6 1,1,dc 1f,3,e6 95,2,e6 dbc,6,e6 2,10,e6 3,6,e6 2,1,e6 2,4,e6 65,0,e6 a1,6,e6 178,0,e6",
   "3e,3,e6 1fd,1,e8 1,0,dc 1,0,e6 ff,0,e6 1,0,dc f4,0,e6 3,0,e6 8,1,e6 6,0,e6 1db,6,dc 6e,5,e6",
   "1,0,7"]

/-- The characters that are composed of two, with both. -/
def composites : List String :=
  ["c0,0,41,300 1,0,41,301 1,0,41,302 1,0,41,303 1,0,41,308 1,0,41,30a 2,0,43,327 1,0,45,300",
   "1,0,45,301 1,0,45,302 1,0,45,308 1,0,49,300 1,0,49,301 1,0,49,302 1,0,49,308 2,0,4e,303",
   "1,0,4f,300 1,0,4f,301 1,0,4f,302 1,0,4f,303 1,0,4f,308 3,0,55,300 1,0,55,301 1,0,55,302",
   "1,0,55,308 1,0,59,301 3,0,61,300 1,0,61,301 1,0,61,302 1,0,61,303 1,0,61,308 1,0,61,30a",
   "2,0,63,327 1,0,65,300 1,0,65,301 1,0,65,302 1,0,65,308 1,0,69,300 1,0,69,301 1,0,69,302",
   "1,0,69,308 2,0,6e,303 1,0,6f,300 1,0,6f,301 1,0,6f,302 1,0,6f,303 1,0,6f,308 3,0,75,300",
   "1,0,75,301 1,0,75,302 1,0,75,308 1,0,79,301 2,0,79,308 1,0,41,304 1,0,61,304 1,0,41,306",
   "1,0,61,306 1,0,41,328 1,0,61,328 1,0,43,301 1,0,63,301 1,0,43,302 1,0,63,302 1,0,43,307",
   "1,0,63,307 1,0,43,30c 1,0,63,30c 1,0,44,30c 1,0,64,30c 3,0,45,304 1,0,65,304 1,0,45,306",
   "1,0,65,306 1,0,45,307 1,0,65,307 1,0,45,328 1,0,65,328 1,0,45,30c 1,0,65,30c 1,0,47,302",
   "1,0,67,302 1,0,47,306 1,0,67,306 1,0,47,307 1,0,67,307 1,0,47,327 1,0,67,327 1,0,48,302",
   "1,0,68,302 3,0,49,303 1,0,69,303 1,0,49,304 1,0,69,304 1,0,49,306 1,0,69,306 1,0,49,328",
   "1,0,69,328 1,0,49,307 4,0,4a,302 1,0,6a,302 1,0,4b,327 1,0,6b,327 2,0,4c,301 1,0,6c,301",
   "1,0,4c,327 1,0,6c,327 1,0,4c,30c 1,0,6c,30c 5,0,4e,301 1,0,6e,301 1,0,4e,327 1,0,6e,327",
   "1,0,4e,30c 1,0,6e,30c 4,0,4f,304 1,0,6f,304 1,0,4f,306 1,0,6f,306 1,0,4f,30b 1,0,6f,30b",
   "3,0,52,301 1,0,72,301 1,0,52,327 1,0,72,327 1,0,52,30c 1,0,72,30c 1,0,53,301 1,0,73,301",
   "1,0,53,302 1,0,73,302 1,0,53,327 1,0,73,327 1,0,53,30c 1,0,73,30c 1,0,54,327 1,0,74,327",
   "1,0,54,30c 1,0,74,30c 3,0,55,303 1,0,75,303 1,0,55,304 1,0,75,304 1,0,55,306 1,0,75,306",
   "1,0,55,30a 1,0,75,30a 1,0,55,30b 1,0,75,30b 1,0,55,328 1,0,75,328 1,0,57,302 1,0,77,302",
   "1,0,59,302 1,0,79,302 1,0,59,308 1,0,5a,301 1,0,7a,301 1,0,5a,307 1,0,7a,307 1,0,5a,30c",
   "1,0,7a,30c 22,0,4f,31b 1,0,6f,31b e,0,55,31b 1,0,75,31b 1d,0,41,30c 1,0,61,30c 1,0,49,30c",
   "1,0,69,30c 1,0,4f,30c 1,0,6f,30c 1,0,55,30c 1,0,75,30c 1,0,dc,304 1,0,fc,304 1,0,dc,301",
   "1,0,fc,301 1,0,dc,30c 1,0,fc,30c 1,0,dc,300 1,0,fc,300 2,0,c4,304 1,0,e4,304 1,0,226,304",
   "1,0,227,304 1,0,c6,304 1,0,e6,304 3,0,47,30c 1,0,67,30c 1,0,4b,30c 1,0,6b,30c 1,0,4f,328",
   "1,0,6f,328 1,0,1ea,304 1,0,1eb,304 1,0,1b7,30c 1,0,292,30c 1,0,6a,30c 4,0,47,301 1,0,67,301",
   "3,0,4e,300 1,0,6e,300 1,0,c5,301 1,0,e5,301 1,0,c6,301 1,0,e6,301 1,0,d8,301 1,0,f8,301",
   "1,0,41,30f 1,0,61,30f 1,0,41,311 1,0,61,311 1,0,45,30f 1,0,65,30f 1,0,45,311 1,0,65,311",
   "1,0,49,30f 1,0,69,30f 1,0,49,311 1,0,69,311 1,0,4f,30f 1,0,6f,30f 1,0,4f,311 1,0,6f,311",
   "1,0,52,30f 1,0,72,30f 1,0,52,311 1,0,72,311 1,0,55,30f 1,0,75,30f 1,0,55,311 1,0,75,311",
   "1,0,53,326 1,0,73,326 1,0,54,326 1,0,74,326 3,0,48,30c 1,0,68,30c 7,0,41,307 1,0,61,307",
   "1,0,45,327 1,0,65,327 1,0,d6,304 1,0,f6,304 1,0,d5,304 1,0,f5,304 1,0,4f,307 1,0,6f,307",
   "1,0,22e,304 1,0,22f,304 1,0,59,304 1,0,79,304 152,0,a8,301 1,0,391,301 2,0,395,301",
   "1,0,397,301 1,0,399,301 2,0,39f,301 2,0,3a5,301 1,0,3a9,301 1,0,3ca,301 1a,0,399,308",
   "1,0,3a5,308 1,0,3b1,301 1,0,3b5,301 1,0,3b7,301 1,0,3b9,301 1,0,3cb,301 1a,0,3b9,308",
   "1,0,3c5,308 1,0,3bf,301 1,0,3c5,301 1,0,3c9,301 5,0,3d2,301 1,0,3d2,308 2c,0,415,300",
   "1,0,415,308 2,0,413,301 4,0,406,308 5,0,41a,301 1,0,418,300 1,0,423,306 b,0,418,306",
   "20,0,438,306 17,0,435,300 1,0,435,308 2,0,433,301 4,0,456,308 5,0,43a,301 1,0,438,300",
   "1,0,443,306 18,0,474,30f 1,0,475,30f 4a,0,416,306 1,0,436,306 e,0,410,306 1,0,430,306",
   "1,0,410,308 1,0,430,308 3,0,415,306 1,0,435,306 3,0,4d8,308 1,0,4d9,308 1,0,416,308",
   "1,0,436,308 1,0,417,308 1,0,437,308 3,0,418,304 1,0,438,304 1,0,418,308 1,0,438,308",
   "1,0,41e,308 1,0,43e,308 3,0,4e8,308 1,0,4e9,308 1,0,42d,308 1,0,44d,308 1,0,423,304",
   "1,0,443,304 1,0,423,308 1,0,443,308 1,0,423,30b 1,0,443,30b 1,0,427,308 1,0,447,308",
   "3,0,42b,308 1,0,44b,308 129,0,627,653 1,0,627,654 1,0,648,654 1,0,627,655 1,0,64a,654",
   "9a,0,6d5,654 2,0,6c1,654 11,0,6d2,654 256,0,928,93c 8,0,930,93c 3,0,933,93c 97,0,9c7,9be",
   "1,0,9c7,9d7 17c,0,b47,b56 3,0,b47,b3e 1,0,b47,b57 48,0,b92,bd7 36,0,bc6,bbe 1,0,bc7,bbe",
   "1,0,bc6,bd7 7c,0,c46,c56 78,0,cbf,cd5 7,0,cc6,cd5 1,0,cc6,cd6 2,0,cc6,cc2 1,0,cca,cd5",
   "7f,0,d46,d3e 1,0,d47,d3e 1,0,d46,d57 8e,0,dd9,dca 2,0,dd9,dcf 1,0,ddc,dca 1,0,dd9,ddf",
   "248,0,1025,102e ae0,0,1b05,1b35 2,0,1b07,1b35 2,0,1b09,1b35 2,0,1b0b,1b35 2,0,1b0d,1b35",
   "4,0,1b11,1b35 29,0,1b3a,1b35 2,0,1b3c,1b35 3,0,1b3e,1b35 1,0,1b3f,1b35 2,0,1b42,1b35",
   "2bd,0,41,325 1,0,61,325 1,0,42,307 1,0,62,307 1,0,42,323 1,0,62,323 1,0,42,331 1,0,62,331",
   "1,0,c7,301 1,0,e7,301 1,0,44,307 1,0,64,307 1,0,44,323 1,0,64,323 1,0,44,331 1,0,64,331",
   "1,0,44,327 1,0,64,327 1,0,44,32d 1,0,64,32d 1,0,112,300 1,0,113,300 1,0,112,301 1,0,113,301",
   "1,0,45,32d 1,0,65,32d 1,0,45,330 1,0,65,330 1,0,228,306 1,0,229,306 1,0,46,307 1,0,66,307",
   "1,0,47,304 1,0,67,304 1,0,48,307 1,0,68,307 1,0,48,323 1,0,68,323 1,0,48,308 1,0,68,308",
   "1,0,48,327 1,0,68,327 1,0,48,32e 1,0,68,32e 1,0,49,330 1,0,69,330 1,0,cf,301 1,0,ef,301",
   "1,0,4b,301 1,0,6b,301 1,0,4b,323 1,0,6b,323 1,0,4b,331 1,0,6b,331 1,0,4c,323 1,0,6c,323",
   "1,0,1e36,304 1,0,1e37,304 1,0,4c,331 1,0,6c,331 1,0,4c,32d 1,0,6c,32d 1,0,4d,301 1,0,6d,301",
   "1,0,4d,307 1,0,6d,307 1,0,4d,323 1,0,6d,323 1,0,4e,307 1,0,6e,307 1,0,4e,323 1,0,6e,323",
   "1,0,4e,331 1,0,6e,331 1,0,4e,32d 1,0,6e,32d 1,0,d5,301 1,0,f5,301 1,0,d5,308 1,0,f5,308",
   "1,0,14c,300 1,0,14d,300 1,0,14c,301 1,0,14d,301 1,0,50,301 1,0,70,301 1,0,50,307 1,0,70,307",
   "1,0,52,307 1,0,72,307 1,0,52,323 1,0,72,323 1,0,1e5a,304 1,0,1e5b,304 1,0,52,331 1,0,72,331",
   "1,0,53,307 1,0,73,307 1,0,53,323 1,0,73,323 1,0,15a,307 1,0,15b,307 1,0,160,307 1,0,161,307",
   "1,0,1e62,307 1,0,1e63,307 1,0,54,307 1,0,74,307 1,0,54,323 1,0,74,323 1,0,54,331 1,0,74,331",
   "1,0,54,32d 1,0,74,32d 1,0,55,324 1,0,75,324 1,0,55,330 1,0,75,330 1,0,55,32d 1,0,75,32d",
   "1,0,168,301 1,0,169,301 1,0,16a,308 1,0,16b,308 1,0,56,303 1,0,76,303 1,0,56,323 1,0,76,323",
   "1,0,57,300 1,0,77,300 1,0,57,301 1,0,77,301 1,0,57,308 1,0,77,308 1,0,57,307 1,0,77,307",
   "1,0,57,323 1,0,77,323 1,0,58,307 1,0,78,307 1,0,58,308 1,0,78,308 1,0,59,307 1,0,79,307",
   "1,0,5a,302 1,0,7a,302 1,0,5a,323 1,0,7a,323 1,0,5a,331 1,0,7a,331 1,0,68,331 1,0,74,308",
   "1,0,77,30a 1,0,79,30a 2,0,17f,307 5,0,41,323 1,0,61,323 1,0,41,309 1,0,61,309 1,0,c2,301",
   "1,0,e2,301 1,0,c2,300 1,0,e2,300 1,0,c2,309 1,0,e2,309 1,0,c2,303 1,0,e2,303 1,0,1ea0,302",
   "1,0,1ea1,302 1,0,102,301 1,0,103,301 1,0,102,300 1,0,103,300 1,0,102,309 1,0,103,309",
   "1,0,102,303 1,0,103,303 1,0,1ea0,306 1,0,1ea1,306 1,0,45,323 1,0,65,323 1,0,45,309",
   "1,0,65,309 1,0,45,303 1,0,65,303 1,0,ca,301 1,0,ea,301 1,0,ca,300 1,0,ea,300 1,0,ca,309",
   "1,0,ea,309 1,0,ca,303 1,0,ea,303 1,0,1eb8,302 1,0,1eb9,302 1,0,49,309 1,0,69,309 1,0,49,323",
   "1,0,69,323 1,0,4f,323 1,0,6f,323 1,0,4f,309 1,0,6f,309 1,0,d4,301 1,0,f4,301 1,0,d4,300",
   "1,0,f4,300 1,0,d4,309 1,0,f4,309 1,0,d4,303 1,0,f4,303 1,0,1ecc,302 1,0,1ecd,302 1,0,1a0,301",
   "1,0,1a1,301 1,0,1a0,300 1,0,1a1,300 1,0,1a0,309 1,0,1a1,309 1,0,1a0,303 1,0,1a1,303",
   "1,0,1a0,323 1,0,1a1,323 1,0,55,323 1,0,75,323 1,0,55,309 1,0,75,309 1,0,1af,301 1,0,1b0,301",
   "1,0,1af,300 1,0,1b0,300 1,0,1af,309 1,0,1b0,309 1,0,1af,303 1,0,1b0,303 1,0,1af,323",
   "1,0,1b0,323 1,0,59,300 1,0,79,300 1,0,59,323 1,0,79,323 1,0,59,309 1,0,79,309 1,0,59,303",
   "1,0,79,303 7,0,3b1,313 1,0,3b1,314 1,0,1f00,300 1,0,1f01,300 1,0,1f00,301 1,0,1f01,301",
   "1,0,1f00,342 1,0,1f01,342 1,0,391,313 1,0,391,314 1,0,1f08,300 1,0,1f09,300 1,0,1f08,301",
   "1,0,1f09,301 1,0,1f08,342 1,0,1f09,342 1,0,3b5,313 1,0,3b5,314 1,0,1f10,300 1,0,1f11,300",
   "1,0,1f10,301 1,0,1f11,301 3,0,395,313 1,0,395,314 1,0,1f18,300 1,0,1f19,300 1,0,1f18,301",
   "1,0,1f19,301 3,0,3b7,313 1,0,3b7,314 1,0,1f20,300 1,0,1f21,300 1,0,1f20,301 1,0,1f21,301",
   "1,0,1f20,342 1,0,1f21,342 1,0,397,313 1,0,397,314 1,0,1f28,300 1,0,1f29,300 1,0,1f28,301",
   "1,0,1f29,301 1,0,1f28,342 1,0,1f29,342 1,0,3b9,313 1,0,3b9,314 1,0,1f30,300 1,0,1f31,300",
   "1,0,1f30,301 1,0,1f31,301 1,0,1f30,342 1,0,1f31,342 1,0,399,313 1,0,399,314 1,0,1f38,300",
   "1,0,1f39,300 1,0,1f38,301 1,0,1f39,301 1,0,1f38,342 1,0,1f39,342 1,0,3bf,313 1,0,3bf,314",
   "1,0,1f40,300 1,0,1f41,300 1,0,1f40,301 1,0,1f41,301 3,0,39f,313 1,0,39f,314 1,0,1f48,300",
   "1,0,1f49,300 1,0,1f48,301 1,0,1f49,301 3,0,3c5,313 1,0,3c5,314 1,0,1f50,300 1,0,1f51,300",
   "1,0,1f50,301 1,0,1f51,301 1,0,1f50,342 1,0,1f51,342 2,0,3a5,314 2,0,1f59,300 2,0,1f59,301",
   "2,0,1f59,342 1,0,3c9,313 1,0,3c9,314 1,0,1f60,300 1,0,1f61,300 1,0,1f60,301 1,0,1f61,301",
   "1,0,1f60,342 1,0,1f61,342 1,0,3a9,313 1,0,3a9,314 1,0,1f68,300 1,0,1f69,300 1,0,1f68,301",
   "1,0,1f69,301 1,0,1f68,342 1,0,1f69,342 1,0,3b1,300 2,0,3b5,300 2,0,3b7,300 2,0,3b9,300",
   "2,0,3bf,300 2,0,3c5,300 2,0,3c9,300 4,0,1f00,345 1,0,1f01,345 1,0,1f02,345 1,0,1f03,345",
   "1,0,1f04,345 1,0,1f05,345 1,0,1f06,345 1,0,1f07,345 1,0,1f08,345 1,0,1f09,345 1,0,1f0a,345",
   "1,0,1f0b,345 1,0,1f0c,345 1,0,1f0d,345 1,0,1f0e,345 1,0,1f0f,345 1,0,1f20,345 1,0,1f21,345",
   "1,0,1f22,345 1,0,1f23,345 1,0,1f24,345 1,0,1f25,345 1,0,1f26,345 1,0,1f27,345 1,0,1f28,345",
   "1,0,1f29,345 1,0,1f2a,345 1,0,1f2b,345 1,0,1f2c,345 1,0,1f2d,345 1,0,1f2e,345 1,0,1f2f,345",
   "1,0,1f60,345 1,0,1f61,345 1,0,1f62,345 1,0,1f63,345 1,0,1f64,345 1,0,1f65,345 1,0,1f66,345",
   "1,0,1f67,345 1,0,1f68,345 1,0,1f69,345 1,0,1f6a,345 1,0,1f6b,345 1,0,1f6c,345 1,0,1f6d,345",
   "1,0,1f6e,345 1,0,1f6f,345 1,0,3b1,306 1,0,3b1,304 1,0,1f70,345 1,0,3b1,345 1,0,3ac,345",
   "2,0,3b1,342 1,0,1fb6,345 1,0,391,306 1,0,391,304 1,0,391,300 2,0,391,345 5,0,a8,342",
   "1,0,1f74,345 1,0,3b7,345 1,0,3ae,345 2,0,3b7,342 1,0,1fc6,345 1,0,395,300 2,0,397,300",
   "2,0,397,345 1,0,1fbf,300 1,0,1fbf,301 1,0,1fbf,342 1,0,3b9,306 1,0,3b9,304 1,0,3ca,300",
   "4,0,3b9,342 1,0,3ca,342 1,0,399,306 1,0,399,304 1,0,399,300 3,0,1ffe,300 1,0,1ffe,301",
   "1,0,1ffe,342 1,0,3c5,306 1,0,3c5,304 1,0,3cb,300 2,0,3c1,313 1,0,3c1,314 1,0,3c5,342",
   "1,0,3cb,342 1,0,3a5,306 1,0,3a5,304 1,0,3a5,300 2,0,3a1,314 1,0,a8,300 5,0,1f7c,345",
   "1,0,3c9,345 1,0,3ce,345 2,0,3c9,342 1,0,1ff6,345 1,0,39f,300 2,0,3a9,300 2,0,3a9,345",
   "19e,0,2190,338 1,0,2192,338 13,0,2194,338 1f,0,21d0,338 1,0,21d4,338 1,0,21d2,338",
   "35,0,2203,338 5,0,2208,338 3,0,220b,338 18,0,2223,338 2,0,2225,338 1b,0,223c,338",
   "3,0,2243,338 3,0,2245,338 2,0,2248,338 17,0,3d,338 2,0,2261,338 b,0,224d,338 1,0,3c,338",
   "1,0,3e,338 1,0,2264,338 1,0,2265,338 3,0,2272,338 1,0,2273,338 3,0,2276,338 1,0,2277,338",
   "7,0,227a,338 1,0,227b,338 3,0,2282,338 1,0,2283,338 3,0,2286,338 1,0,2287,338 23,0,22a2,338",
   "1,0,22a8,338 1,0,22a9,338 1,0,22ab,338 31,0,227c,338 1,0,227d,338 1,0,2291,338 1,0,2292,338",
   "7,0,22b2,338 1,0,22b3,338 1,0,22b4,338 1,0,22b5,338 d5f,0,304b,3099 2,0,304d,3099",
   "2,0,304f,3099 2,0,3051,3099 2,0,3053,3099 2,0,3055,3099 2,0,3057,3099 2,0,3059,3099",
   "2,0,305b,3099 2,0,305d,3099 2,0,305f,3099 2,0,3061,3099 3,0,3064,3099 2,0,3066,3099",
   "2,0,3068,3099 7,0,306f,3099 1,0,306f,309a 2,0,3072,3099 1,0,3072,309a 2,0,3075,3099",
   "1,0,3075,309a 2,0,3078,3099 1,0,3078,309a 2,0,307b,3099 1,0,307b,309a 17,0,3046,3099",
   "a,0,309d,3099 e,0,30ab,3099 2,0,30ad,3099 2,0,30af,3099 2,0,30b1,3099 2,0,30b3,3099",
   "2,0,30b5,3099 2,0,30b7,3099 2,0,30b9,3099 2,0,30bb,3099 2,0,30bd,3099 2,0,30bf,3099",
   "2,0,30c1,3099 3,0,30c4,3099 2,0,30c6,3099 2,0,30c8,3099 7,0,30cf,3099 1,0,30cf,309a",
   "2,0,30d2,3099 1,0,30d2,309a 2,0,30d5,3099 1,0,30d5,309a 2,0,30d8,3099 1,0,30d8,309a",
   "2,0,30db,3099 1,0,30db,309a 17,0,30a6,3099 3,0,30ef,3099 1,0,30f0,3099 1,0,30f1,3099",
   "1,0,30f2,3099 4,0,30fd,3099 d4cb,0,105d2,307 1b,0,105da,307 ab6,0,11099,110ba",
   "2,0,1109b,110ba f,0,110a5,110ba 83,0,11131,11127 1,0,11132,11127 21c,0,11347,1133e",
   "1,0,11347,11357 37,0,11382,113c9 2,0,11384,113bb 9,0,1138b,113c2 3,0,11390,113c9",
   "34,0,113c2,113c2 2,0,113c2,113b8 1,0,113c2,113c9 f3,0,114b9,114ba 1,0,114b9,114b0",
   "2,0,114b9,114bd fc,0,115b8,115af 1,0,115b9,115af 37d,0,11935,11930 47e9,0,1611e,1611e",
   "1,0,1611e,16129 1,0,1611e,1611f 1,0,16129,1611f 1,0,1611e,16120 1,0,16121,1611f",
   "1,0,16122,1611f 1,0,16121,16120 c40,0,16d67,16d67 1,0,16d63,16d67 1,0,16d69,16d67"]

/-- The characters that are not simply written from left to right: letters written
from right to left (1), numbers among these (2), other numbers (3), neutral
characters (4), marks (5) and all others (6). -/
def directions : List String :=
  ["0,8,4 1,4,6 1,d,4 1,4,6 1,e,4 1,9,3 1,6,4 1b,5,4 1b,4,4 22,6,4 2,0,4 2,3,4 2,1,4 5,1,4 4,0,4",
   "4,0,4 18,0,4 20,0,4 1c2,1,4 8,d,4 3,5,4 7,1,4 6,8,4 2,10,4 1,3f,5 3,0,5 4,29,5 6,0,4 81,0,4",
   "8d,6,5 101,0,4 3,2,4 2,2c,5 1,0,1 1,0,5 1,0,1 1,1,5 1,0,1 1,1,5 1,0,1 1,0,5 9,1a,1 5,5,1",
   "12,1,4 1,0,1 1,1,4 1,0,1 1,0,4 1,0,1 1,1,4 1,a,5 1,0,1 2,2d,1 1,14,5 1,9,2 1,0,4 1,1,2 1,2,1",
   "1,0,5 1,3,1 5,5c,1 1,6,5 2,0,4 1,5,5 1,1,1 1,1,5 1,0,4 1,3,5 1,1,1 1,9,3 1,13,1 3,0,1 1,0,5",
   "1,1d,1 1,1a,5 3,58,1 1,a,5 1,0,1 f,2a,1 1,8,5 1,1,1 1,3,4 1,0,1 3,0,5 1,17,1 1,3,5 1,0,1",
   "1,8,5 1,0,1 1,2,5 1,0,1 1,4,5 3,e,1 2,18,1 1,2,5 3,0,1 2,a,1 6,1f,1 8,8,5 1,29,1 1,17,5",
   "2,1f,5 38,0,5 2,0,5 5,7,5 5,0,5 4,6,5 b,1,5 1e,0,5 3b,0,5 5,3,5 9,0,5 15,1,5 f,1,4 8,0,4",
   "3,0,5 3,1,5 3a,0,5 5,1,5 5,1,5 3,2,5 4,0,5 1f,1,5 4,0,5 c,1,5 3a,0,5 5,4,5 2,1,5 5,0,5",
   "15,1,5 e,0,4 9,5,5 2,0,5 3b,0,5 3,0,5 2,3,5 9,0,5 8,1,5 c,1,5 1f,0,5 3e,0,5 d,0,5 26,7,4",
   "6,0,5 4,0,5 38,0,5 2,2,5 6,2,5 2,3,5 8,1,5 c,1,5 15,6,4 3,0,5 3b,0,5 10,1,5 15,1,5 1d,1,5",
   "3a,1,5 5,3,5 9,0,5 15,1,5 1e,0,5 49,0,5 8,2,5 2,0,5 5b,0,5 3,6,5 5,0,4 8,7,5 63,0,5 3,8,5",
   "c,6,5 4a,1,5 1c,0,5 2,0,5 2,0,5 1,3,4 34,1,5 2,0,5 6,4,5 2,0,5 2,2,5 2,1,5 6,5,5 2,3,5 2,3,5",
   "2,3,5 2,3,5 2,3,5 2,b,5 2,2,5 a,0,5 67,3,5 2,5,5 2,1,5 3,1,5 1a,1,5 5,2,5 11,3,5 e,0,5 3,1,5",
   "7,0,5 10,0,5 2c0,2,5 31,9,4 67,0,4 29b,1,4 76,2,5 1e,1,5 1f,1,5 1f,1,5 41,1,5 2,6,5 9,0,5",
   "3,a,5 8,0,4 2,0,5 13,9,4 7,a,4 1,2,5 1,0,4 1,0,5 76,1,5 23,0,5 77,2,5 5,1,5 a,0,5 7,2,5",
   "5,0,4 4,1,4 99,21,4 18,1,5 3,0,5 3b,0,5 2,6,5 2,0,5 2,0,5 3,7,5 7,9,5 3,0,5 31,2d,5 3,b,5",
   "15,3,5 31,0,5 2,3,5 3,0,5 6,0,5 29,8,5 d,1,5 21,3,5 3,1,5 2,2,5 39,0,5 2,1,5 4,0,5 2,2,5",
   "3b,7,5 3,1,5 99,2,5 2,c,5 2,6,5 5,0,5 7,0,5 4,1,5 c7,3f,5 20c,2,4 3,0,4 2,4,4 2,b,4 4,0,4",
   "9,2,4 3,0,4 3,3,4 2,0,4 2,7,4 4,c,4 2,6,4 2,4,4 6,5,4 31,7,4 2,18,4 f,20,5 14,0,4 4,0,4",
   "c,0,4 3,1,4 6,1,4 4,0,4 2,0,4 2,0,4 2,0,4 5,0,4 c,0,4 7,3,4 6,3,4 3d,1,4 5,9b,4 3,0,4 3,f7,4",
   "3,a,4 46,19,4 2,93,4 17,a,4 a1,1c0,4 2,152,4 101,10b,4 2,66,4 4,64,4 2,96,4 3,89,4 e6,5,4",
   "5,2,5 8,6,4 80,0,5 61,1f,5 1,5d,4 23,19,4 2,3,4 2,52,4 10f,0,4 2,1,4 4,18,4 a,3,5 3,0,4",
   "7,0,4 6,2,4 5a,1,5 6,0,4 5b,0,4 c5,25,4 1bdb,3f,4 5691,36,4 147,2,4 60,3,5 1,0,4 1,9,5 1,1,4",
   "1f,1,5 51,1,5 f,21,4 67,0,4 7a,0,5 4,0,5 5,0,5 1a,1,5 2,3,4 1,0,5 c,1,4 3b,3,4 4d,1,5",
   "1b,11,5 e,0,5 27,7,5 1a,a,5 2f,2,5 31,0,5 3,3,5 3,1,5 28,0,5 44,5,5 3,1,5 3,1,5 d,0,5 9,0,5",
   "30,0,5 34,0,5 2,2,5 3,1,5 6,1,5 2,0,5 2b,1,5 9,0,5 74,1,4 7a,0,5 3,0,5 5,0,5 4f31,0,5",
   "94,10,1 1,f,4 16c,11,4 41,1,4 37,7,4 2e,2,4 1,f,5 11,f,5 16,1,4 2d,0,1 8c,0,4 202,0,4",
   "3f,4c,4 4,c,4 4,0,4 5d,0,5 e3,0,5 1,1a,3 7b,4,5 486,5,1 3,0,1 2,2b,1 2,1,1 4,0,1 3,16,1",
   "2,47,1 9,8,1 31,12,1 2,1,1 6,20,1 4,0,4 1,19,1 6,1a,1 27,37,1 5,13,1 3,2e,1 1,2,5 2,1,5",
   "6,3,5 1,3,1 2,2,1 2,1c,1 3,2,5 5,0,5 1,8,1 8,8,1 8,3f,1 21,24,1 1,1,5 5,b,1 a,35,1 4,6,4",
   "1,15,1 3,1a,1 6,19,1 8,3,1 d,6,1 51,48,1 78,32,1 8,29,1 1,3,5 9,9,2 7,9,2 1,5,1 1a,4,5 1,0,4",
   "1,16,1 9,1,1 d1,1e,2 2,29,1 2,1,5 1,0,1 3,1,1 11,5,1 9,8,4 22,5,5 1,27,1 9,15,1 1,a,5 1,8,1",
   "17,11,1 1,3,5 1,3,1 27,1b,1 15,16,1 b,0,5 37,e,5 c,13,4 b,0,5 3,1,5 b,2,5 32,3,5 3,1,5 8,0,5",
   "3e,2,5 25,4,5 2,7,5 3f,0,5 d,1,5 35,8,5 b,3,5 3,0,5 60,2,5 3,0,5 2,1,5 7,0,5 3,0,5 9e,0,5",
   "4,7,5 16,1,5 3a,1,5 4,0,5 26,6,5 4,4,5 47,5,5 e,0,5 2,0,5 2,0,5 f,1,5 56,7,5 3,2,5 2,0,5",
   "18,0,5 55,5,5 2,0,5 5,1,5 2,1,5 ef,3,5 7,1,5 2,1,5 1c,1,5 56,7,5 3,0,5 2,1,5 20,c,4 3f,0,5",
   "2,0,5 3,5,5 2,0,5 66,0,5 2,0,5 3,3,5 2,4,5 104,8,5 2,1,5 101,1,5 2,0,5 5,0,5 91,3,5 3,1,5",
   "5,0,5 21,5,5 3,1,5 29,5,5 3,3,5 9,0,5 a,5,5 3,2,5 2f,c,5 2,1,5 c7,0,5 2,2,5 2,0,5 ca,6,5",
   "2,5,5 55,15,5 3,6,5 2,1,5 2,1,5 7b,5,5 4,0,5 2,1,5 2,6,5 2,0,5 49,1,5 4,0,5 2,0,5 15c,1,5",
   "c,1,5 35,4,5 6,0,5 2,0,5 18,0,5 7b,1c,4 144f,0,5 7,e,5 2cc9,b,5 4,2,5 9c1,4,5 3c,6,5 419,0,5",
   "40,3,5 50,0,4 2,0,5 4cb9,1,5 2,3,4 f5d,d5,4 25,2,4 4,1b3,4 7,16,4 10,10,4 10,2d,5 3,16,5",
   "221,2,5 a,7,4 1,7,5 3,6,5 1f,3,5 3c,1,4 16,41,4 1,2,5 1,0,4 bb,56,4 6aa,36,5 5,31,5 9,0,5",
   "f,0,5 17,4,5 2,e,5 551,6,5 2,10,5 3,6,5 2,1,5 2,4,5 65,0,5 a1,6,5 178,0,5 3e,3,5 10,0,4",
   "1ed,3,5 ff,1,5 f4,0,5 3,0,5 8,1,5 6,0,5 10b,c4,1 3,8,1 1,6,5 4c,21,1 1,6,5 1,0,1 5,9,1 5,1,1",
   "312,43,1 4d,3c,1 1b3,1,4 10f,2b,4 5,63,4 d,e,4 3,e,4 2,e,4 2,24,4 16,4,4 20,0,4 3e,2,4",
   "3e,0,4 b3,5,4 9b,3d8,4 4,10,4 4,c,4 4,d9,4 7,b,4 5,0,4 10,b,4 5,37,4 9,9,4 7,27,4 9,1d,4",
   "3,b,4 5,1,4 f,8,4 28,157,4 9,d,4 3,c,4 4,a,4 4,38,4 2,0,4 5,f,4 3,b,4 5,9,4 8,92,4 2,5b,4",
   "b,0,4 c0506,ef,5"]

/-- The characters that join others: on the left (1), on both sides (2), on the right
(3), and those that let a join pass (4). -/
def joiningTypes : List String :=
  ["ad,0,4 253,6f,4 114,6,4 108,2c,4 2,0,4 2,1,4 2,1,4 2,0,4 49,a,4 2,0,4 4,0,2 2,3,3 1,0,2",
   "1,0,3 1,0,2 1,0,3 1,4,2 1,3,3 1,c,2 2,6,2 1,0,3 1,1,2 1,14,4 f,1,2 1,0,4 1,2,3 2,2,3 1,f,2",
   "1,11,3 1,25,2 1,0,3 1,1,2 1,8,3 1,0,2 1,0,3 1,0,2 1,0,3 1,1,2 1,1,3 2,0,3 1,6,4 3,5,4 3,1,4",
   "2,3,4 1,1,3 b,2,2 3,0,2 10,0,4 1,0,3 1,0,4 1,2,2 1,4,3 1,3,2 1,0,3 1,8,2 1,0,3 1,0,2 1,0,3",
   "1,0,2 1,0,3 1,1,2 1,0,3 1,1a,4 3,0,3 1,a,2 1,2,3 1,e,2 1,1,3 1,3,2 1,0,3 1,0,2 1,1,3 1,2,2",
   "1,1,3 1,5,2 27,a,4 1a,20,2 1,8,4 a,0,4 19,3,4 2,8,4 2,2,4 2,4,4 13,0,3 1,4,2 1,1,3 1,0,2",
   "1,0,3 1,9,2 1,0,3 1,0,2 1,2,3 1,2,4 5,0,2 2,3,2 2,0,3 1,0,2 1,1,3 6,12,3 4,0,2 3,4,2 1,0,3",
   "1,0,2 8,8,4 1,9,2 1,2,3 2,0,3 1,1,2 1,1,3 1,5,2 1,0,3 1,e,2 2,17,4 2,1f,4 38,0,4 2,0,4 5,7,4",
   "5,0,4 4,6,4 b,1,4 1e,0,4 3b,0,4 5,3,4 9,0,4 15,1,4 1b,0,4 3,1,4 3a,0,4 5,1,4 5,1,4 3,2,4",
   "4,0,4 1f,1,4 4,0,4 c,1,4 3a,0,4 5,4,4 2,1,4 5,0,4 15,1,4 17,5,4 2,0,4 3b,0,4 3,0,4 2,3,4",
   "9,0,4 8,1,4 c,1,4 1f,0,4 3e,0,4 d,0,4 33,0,4 4,0,4 38,0,4 2,2,4 6,2,4 2,3,4 8,1,4 c,1,4",
   "1e,0,4 3b,0,4 3,0,4 7,0,4 6,1,4 15,1,4 1d,1,4 3a,1,4 5,3,4 9,0,4 15,1,4 1e,0,4 49,0,4 8,2,4",
   "2,0,4 5b,0,4 3,6,4 d,7,4 63,0,4 3,8,4 c,6,4 4a,1,4 1c,0,4 2,0,4 2,0,4 38,d,4 2,4,4 2,1,4",
   "6,a,4 2,23,4 a,0,4 67,3,4 2,5,4 2,1,4 3,1,4 1a,1,4 5,2,4 11,3,4 e,0,4 3,1,4 7,0,4 10,0,4",
   "2c0,2,4 3b3,2,4 1e,1,4 1f,1,4 1f,1,4 41,1,4 2,6,4 9,0,4 3,a,4 a,0,4 2a,0,2 4,2,4 2,0,4",
   "11,58,2 d,1,4 1,21,2 1,0,4 1,0,2 76,2,4 5,1,4 a,0,4 7,2,4 dc,1,4 3,0,4 3b,0,4 2,6,4 2,0,4",
   "2,0,4 3,7,4 7,9,4 3,0,4 31,2d,4 3,b,4 15,3,4 31,0,4 2,3,4 3,0,4 6,0,4 29,8,4 d,1,4 21,3,4",
   "3,1,4 2,2,4 39,0,4 2,1,4 4,0,4 2,2,4 3b,7,4 3,1,4 99,2,4 2,c,4 2,6,4 5,0,4 7,0,4 4,1,4",
   "c7,3f,4 20c,0,4 3,1,4 1b,4,4 32,4,4 6,5,4 61,20,4 bff,2,4 8e,0,4 61,1f,4 22b,3,4 6c,1,4",
   "75d5,3,4 2,9,4 21,1,4 51,1,4 111,0,4 4,0,4 5,0,4 1a,1,4 6,0,4 14,31,2 1,0,1 52,1,4 1b,11,4",
   "e,0,4 27,7,4 1a,a,4 2f,2,4 31,0,4 3,3,4 3,1,4 28,0,4 44,5,4 3,1,4 3,1,4 d,0,4 9,0,4 30,0,4",
   "34,0,4 2,2,4 3,1,4 6,1,4 2,0,4 2b,1,4 9,0,4 ef,0,4 3,0,4 5,0,4 4f31,0,4 2e2,f,4 11,f,4",
   "d0,0,4 fa,2,4 202,0,4 e3,0,4 96,4,4 687,2,4 2,1,4 6,3,4 29,2,4 5,0,4 81,4,2 1,0,3 2,0,3",
   "2,1,3 3,0,1 1,4,3 1,3,2 1,0,1 1,4,2 1,0,3 1,2,2 1,0,3 3,0,3 1,1,4 5,3,2 1,0,3 91,0,2 1,0,3",
   "1,0,2 1,2,3 1,2,2 1,0,3 1,1,2 1,0,3 1,0,2 1,1,3 1,0,2 1,0,3 18,3,3 1,1,2 152,0,1 1,20,2",
   "1,0,3 1,0,2 1,3,4 42,4,4 13e,1,4 16,0,3 1,1,2 2,1,2 33,5,4 31,2,2 1,0,3 1,10,2 2,a,4 1,2,2",
   "1,0,3 1c,3,2 1,1,3 1,b,2 1,3,4 2b,0,2 2,1,2 1,2,3 2,0,2 1,1,3 1,1,2 1,0,3 1,1,2 2,0,2 1,1,3",
   "1,0,2 5,0,3 1,0,2 1,0,1 36,0,4 37,e,4 2a,0,4 3,1,4 b,2,4 32,3,4 3,1,4 8,0,4 3e,2,4 25,4,4",
   "2,7,4 3f,0,4 d,1,4 35,8,4 b,3,4 3,0,4 60,2,4 3,0,4 2,1,4 7,0,4 3,0,4 9e,0,4 4,7,4 16,1,4",
   "3a,1,4 4,0,4 26,6,4 4,4,4 47,5,4 e,0,4 2,0,4 2,0,4 f,1,4 56,7,4 3,2,4 2,0,4 18,0,4 55,5,4",
   "2,0,4 5,1,4 2,1,4 ef,3,4 7,1,4 2,1,4 1c,1,4 56,7,4 3,0,4 2,1,4 6b,0,4 2,0,4 3,5,4 2,0,4",
   "66,0,4 2,0,4 3,3,4 2,4,4 104,8,4 2,1,4 101,1,4 2,0,4 5,0,4 91,3,4 3,1,4 5,0,4 21,9,4 29,5,4",
   "3,3,4 9,0,4 a,5,4 3,2,4 2f,c,4 2,1,4 c7,0,4 2,2,4 2,0,4 ca,6,4 2,5,4 2,0,4 53,15,4 3,6,4",
   "2,1,4 2,1,4 7b,5,4 4,0,4 2,1,4 2,6,4 2,0,4 49,1,4 4,0,4 2,0,4 15c,1,4 c,1,4 35,4,4 6,0,4",
   "2,0,4 18,0,4 14d6,10,4 7,e,4 2cc9,b,4 4,2,4 9c1,4,4 3c,6,4 419,0,4 40,3,4 52,0,4 4cb9,1,4",
   "2,3,4 125d,2d,4 3,16,4 221,2,4 a,f,4 3,6,4 1f,3,4 95,2,4 7bc,36,4 5,31,4 9,0,4 f,0,4 17,4,4",
   "2,e,4 551,6,4 2,10,4 3,6,4 2,1,4 2,4,4 65,0,4 a1,6,4 178,0,4 3e,3,4 1fd,3,4 ff,1,4 f4,0,4",
   "3,0,4 8,1,4 6,0,4 1db,6,4 2a,43,2 1,7,4 c16b6,0,4 1f,5f,4 81,ef,4"]

end EventQuery
