import FlowConsole.Url.DomainMapping.Table
/-!
Letters and signs of the alphabets, mapped to lower case, and ornamental letters, digits and
fractions, mapped to plain ones.
-/
namespace FlowConsole.Url

/-- Letters, digits and signs mapped to one other. -/
def letterRuns : List MappedRun := MappedRun.ofTable [
    "a0>20 aa>61 b2+2>32 b5>3bc b9>31 ba>6f c0+17>e0 d8+7>f8 100/18>101 134/2>135 139/3>13a",
    "141/4>142 14a/17>14b 178>ff 179/3>17a 17f>73 181>253 182/2>183 186>254 187>188 189+2>256",
    "18b>18c 18e>1dd 18f>259 190>25b 191>192 193>260 194>263 196>269 197>268 198>199 19c>26f",
    "19d>272 19f>275 1a0/3>1a1 1a6>280 1a7>1a8 1a9>283 1ac>1ad 1ae>288 1af>1b0 1b1+2>28a",
    "1b3/2>1b4 1b7>292 1b8>1b9 1bc>1bd 1cd/8>1ce 1de/9>1df 1f4>1f5 1f6>195 1f7>1bf 1f8/14>1f9",
    "220>19e 222/9>223 23a>2c65 23b>23c 23d>19a 23e>2c66 241>242 243>180 244>289 245>28c",
    "246/5>247 2b0>68 2b1>266 2b2>6a 2b3>72 2b4>279 2b5>27b 2b6>281 2b7>77 2b8>79 2e0>263 2e1>6c",
    "2e2>73 2e3>78 2e4>295 340+2>300 343>313 345>3b9 370/2>371 374>2b9 376>377 37e>3b 37f>3f3",
    "386>3ac 387>b7 388+3>3ad 38c>3cc 38e+2>3cd 391+11>3b1 3a3+9>3c3 3cf>3d7 3d0>3b2 3d1>3b8",
    "3d2>3c5 3d3>3cd 3d4>3cb 3d5>3c6 3d6>3c0 3d8/c>3d9 3f0>3ba 3f1>3c1 3f2>3c3 3f4>3b8 3f5>3b5",
    "3f7>3f8 3f9>3c3 3fa>3fb 3fd+3>37b 400+10>450 410+20>430 460/11>461 48a/1b>48b 4c0>4cf",
    "4c1/7>4c2 4d0/30>4d1 531+26>561 f0c>f0b 10a0+26>2d00 10c7>2d27 10cd>2d2d 10fc>10dc",
    "13f8+6>13f0 1c80>432 1c81>434 1c82>43e 1c83+2>441 1c85>442 1c86>44a 1c87>463 1c88>a64b",
    "1c89>1c8a 1c90+2b>10d0 1cbd+3>10fd 1d2c>61 1d2d>e6 1d2e/2>62 1d31>65 1d32>1dd 1d33+8>67",
    "1d3c>6f 1d3d>223 1d3e>70 1d3f>72 1d40+2>74 1d42>77 1d43>61 1d44+2>250 1d46>1d02 1d47>62",
    "1d48+2>64 1d4a>259 1d4b+2>25b 1d4d>67 1d4f>6b 1d50>6d 1d51>14b 1d52>6f 1d53>254 1d54+2>1d16",
    "1d56>70 1d57+2>74 1d59>1d1d 1d5a>26f 1d5b>76 1d5c>1d25 1d5d+3>3b2 1d60+2>3c6 1d62>69 1d63>72",
    "1d64+2>75 1d66+2>3b2 1d68>3c1 1d69+2>3c6 1d78>43d 1d9b>252 1d9c>63 1d9d>255 1d9e>f0 1d9f>25c",
    "1da0>66 1da1>25f 1da2>261 1da3>265 1da4+3>268 1da7>1d7b 1da8>29d 1da9>26d 1daa>1d85 1dab>29f",
    "1dac>271 1dad>270 1dae+4>272 1db2>278 1db3+2>282 1db5>1ab 1db6+2>289 1db8>1d1c 1db9+2>28b",
    "1dbb>7a 1dbc+3>290 1dbf>3b8 1e00/4b>1e01 1e9b>1e61 1e9e>df 1ea0/30>1ea1 1f08+8>1f00",
    "1f18+6>1f10 1f28+8>1f20 1f38+8>1f30 1f48+6>1f40 1f59/4>1f51 1f68+8>1f60 1f71>3ac 1f73>3ad",
    "1f75>3ae 1f77>3af 1f79>3cc 1f7b>3cd 1f7d>3ce 1fb8+2>1fb0 1fba>1f70 1fbb>3ac 1fbe>3b9",
    "1fc8>1f72 1fc9>3ad 1fca>1f74 1fcb>3ae 1fd3>390 1fd8+2>1fd0 1fda>1f76 1fdb>3af 1fe3>3b0",
    "1fe8+2>1fe0 1fea>1f7a 1feb>3cd 1fec>1fe5 1fef>60 1ff8>1f78 1ff9>3cc 1ffa>1f7c 1ffb>3ce",
    "2000>20 2001>20 2002>20 2003>20 2004>20 2005>20 2006>20 2007>20 2008>20 2009>20 200a>20",
    "2011>2010 202f>20 205f>20 2070>30 2071>69 2074+6>34 207a>2b 207b>2212 207c>3d 207d+2>28",
    "207f>6e 2080+a>30 208a>2b 208b>2212 208c>3d 208d+2>28 2090>61 2091>65 2092>6f 2093>78",
    "2094>259 2095>68 2096+4>6b 209a>70 209b+2>73 2102>63 2107>25b 210a+2>67 210c>68 210d>68",
    "210e>68 210f>127 2110>69 2111>69 2112>6c 2113/2>6c 2119+3>70 211c>72 211d>72 2124>7a",
    "2126>3c9 2128>7a 212a>6b 212b>e5 212c+2>62 212f>65 2130+2>65 2132>214e 2133>6d 2134>6f",
    "2135+4>5d0 2139>69 213c>3c0 213d>3b3 213e>3b3 213f>3c0 2140>2211 2145>64 2146+2>64 2148+2>69",
    "2160>69 2164>76 2169>78 216c>6c 216d+2>63 216f>6d 2170>69 2174>76 2179>78 217c>6c 217d+2>63",
    "217f>6d 2183>2184 2329+2>3008 2460+9>31 24b6+1a>61 24d0+1a>61 24ea>30 2c00+30>2c30 2c60>2c61",
    "2c62>26b 2c63>1d7d 2c64>27d 2c67/3>2c68 2c6d>251 2c6e>271 2c6f>250 2c70>252 2c72>2c73",
    "2c75>2c76 2c7c>6a 2c7d>76 2c7e+2>23f 2c80/32>2c81 2ceb/2>2cec 2cf2>2cf3 2d6f>2d61 3000>20",
    "3002>2e 3036>3012 3038>5341 3039+2>5344 a640/17>a641 a680/e>a681 a69c>44a a69d>44c",
    "a722/7>a723 a732/1f>a733 a770>a76f a779/2>a77a a77d>1d79 a77e/5>a77f a78b>a78c a78d>265",
    "a790/2>a791 a796/a>a797 a7aa>266 a7ab>25c a7ac>261 a7ad>26c a7ae>26a a7b0>29e a7b1>287",
    "a7b2>29d a7b3>ab53 a7b4/8>a7b5 a7c4>a794 a7c5>282 a7c6>1d8e a7c7/2>a7c8 a7cb>264 a7cc/8>a7cd",
    "a7dc>19b a7f1>73 a7f2>63 a7f3>66 a7f4>71 a7f5>a7f6 a7f8>127 a7f9>153 ab5c>a727 ab5d>ab37",
    "ab5e>26b ab5f>ab52 ab69>28d ab70+50>13a0 ff01+20>21 ff21+1a>61 ff3b+24>5b ff5f+2>2985",
    "ff61>2e ff62+2>300c ff64>3001 ff65>30fb ff66>30f2 ff67>30a1 ff68>30a3 ff69>30a5 ff6a>30a7",
    "ff6b>30a9 ff6c>30e3 ff6d>30e5 ff6e>30e7 ff6f>30c3 ff70>30fc ff71>30a2 ff72>30a4 ff73>30a6",
    "ff74>30a8 ff75+2>30aa ff77>30ad ff78>30af ff79>30b1 ff7a>30b3 ff7b>30b5 ff7c>30b7 ff7d>30b9",
    "ff7e>30bb ff7f>30bd ff80>30bf ff81>30c1 ff82>30c4 ff83>30c6 ff84>30c8 ff85+6>30ca ff8b>30d2",
    "ff8c>30d5 ff8d>30d8 ff8e>30db ff8f+5>30de ff94>30e4 ff95>30e6 ff96+6>30e8 ff9c>30ef",
    "ff9d>30f3 ff9e+2>3099 ffa1+2>1100 ffa3>11aa ffa4>1102 ffa5+2>11ac ffa7+3>1103 ffaa+6>11b0",
    "ffb0>111a ffb1+3>1106 ffb4>1121 ffb5+a>1109 ffc2+6>1161 ffca+6>1167 ffd2+6>116d ffda+3>1173",
    "ffe0+2>a2 ffe2>ac ffe4>a6 ffe5>a5 ffe6>20a9 ffe8>2502 ffe9+4>2190 ffed>25a0 ffee>25cb",
    "10400+28>10428 104b0+24>104d8 10570+b>10597 1057c+f>105a3 1058c+7>105b3 10594+2>105bb",
    "10781+2>2d0 10783>e6 10784>299 10785>253 10787>2a3 10788>ab66 10789>2a5 1078a>2a4",
    "1078b+2>256 1078d>1d91 1078e>258 1078f>25e 10790>2a9 10791>264 10792>262 10793>260 10794>29b",
    "10795>127 10796>29c 10797>267 10798>284 10799+2>2aa 1079b>26c 1079c>1df04 1079d>a78e",
    "1079e>26e 1079f>1df05 107a0>28e 107a1>1df06 107a2>f8 107a3+2>276 107a5>71 107a6>27a",
    "107a7>1df08 107a8+2>27d 107aa>280 107ab>2a8 107ac>2a6 107ad>ab67 107ae>2a7 107af>288",
    "107b0>2c71 107b2>28f 107b3+2>2a1 107b5>298 107b6+3>1c0 107b9>1df0a 107ba>1df1e",
    "10c80+33>10cc0 10d50+16>10d70 118a0+20>118c0 16e40+20>16e60 16ea0+19>16ebb 1ccd6+1a>61",
    "1ccf0+a>30 1d400+1a>61 1d41a+1a>61 1d434+1a>61 1d44e+7>61 1d456+12>69 1d468+1a>61",
    "1d482+1a>61 1d49c/2>61 1d49f>64 1d4a2>67 1d4a5+2>6a 1d4a9+4>6e 1d4ae+8>73 1d4b6+4>61",
    "1d4bb/2>66 1d4be+6>69 1d4c5+b>70 1d4d0+1a>61 1d4ea+1a>61 1d504+2>61 1d507+4>64 1d50d+8>6a",
    "1d516+7>73 1d51e+1a>61 1d538+2>61 1d53b+4>64 1d540+5>69 1d546>6f 1d54a+7>73 1d552+1a>61",
    "1d56c+1a>61 1d586+1a>61 1d5a0+1a>61 1d5ba+1a>61 1d5d4+1a>61 1d5ee+1a>61 1d608+1a>61",
    "1d622+1a>61 1d63c+1a>61 1d656+1a>61 1d670+1a>61 1d68a+1a>61 1d6a4>131 1d6a5>237 1d6a8+11>3b1",
    "1d6b9>3b8 1d6ba+7>3c3 1d6c1>2207 1d6c2+11>3b1 1d6d3>3c3 1d6d4+7>3c3 1d6db>2202 1d6dc>3b5",
    "1d6dd>3b8 1d6de>3ba 1d6df>3c6 1d6e0>3c1 1d6e1>3c0 1d6e2+11>3b1 1d6f3>3b8 1d6f4+7>3c3",
    "1d6fb>2207 1d6fc+11>3b1 1d70d>3c3 1d70e+7>3c3 1d715>2202 1d716>3b5 1d717>3b8 1d718>3ba",
    "1d719>3c6 1d71a>3c1 1d71b>3c0 1d71c+11>3b1 1d72d>3b8 1d72e+7>3c3 1d735>2207 1d736+11>3b1",
    "1d747>3c3 1d748+7>3c3 1d74f>2202 1d750>3b5 1d751>3b8 1d752>3ba 1d753>3c6 1d754>3c1 1d755>3c0",
    "1d756+11>3b1 1d767>3b8 1d768+7>3c3 1d76f>2207 1d770+11>3b1 1d781>3c3 1d782+7>3c3 1d789>2202",
    "1d78a>3b5 1d78b>3b8 1d78c>3ba 1d78d>3c6 1d78e>3c1 1d78f>3c0 1d790+11>3b1 1d7a1>3b8",
    "1d7a2+7>3c3 1d7a9>2207 1d7aa+11>3b1 1d7bb>3c3 1d7bc+7>3c3 1d7c3>2202 1d7c4>3b5 1d7c5>3b8",
    "1d7c6>3ba 1d7c7>3c6 1d7c8>3c1 1d7c9>3c0 1d7ca>3dd 1d7cb>3dd 1d7ce+a>30 1d7d8+a>30 1d7e2+a>30",
    "1d7ec+a>30 1d7f6+a>30 1e030+9>430 1e039+3>43a 1e03c+b>43e 1e047>44b 1e048+2>44d 1e04a>a689",
    "1e04b>4d9 1e04c>456 1e04d>458 1e04e>4e9 1e04f>4af 1e050>4cf 1e051+9>430 1e05a+2>43a",
    "1e05c+2>43e 1e05e>441 1e05f+6>443 1e065+2>44a 1e067>491 1e068>456 1e069>455 1e06a>45f",
    "1e06b>4ab 1e06c>a651 1e06d>4b1 1e900+22>1e922 1ee00+2>627 1ee02>62c 1ee03>62f 1ee05>648",
    "1ee06>632 1ee07>62d 1ee08>637 1ee09>64a 1ee0a+4>643 1ee0e>633 1ee0f>639 1ee10>641 1ee11>635",
    "1ee12>642 1ee13>631 1ee14>634 1ee15+2>62a 1ee17>62e 1ee18>630 1ee19>636 1ee1a>638 1ee1b>63a",
    "1ee1c>66e 1ee1d>6ba 1ee1e>6a1 1ee1f>66f 1ee21>628 1ee22>62c 1ee24>647 1ee27>62d 1ee29>64a",
    "1ee2a+4>643 1ee2e>633 1ee2f>639 1ee30>641 1ee31>635 1ee32>642 1ee34>634 1ee35+2>62a",
    "1ee37>62e 1ee39>636 1ee3b>63a 1ee42>62c 1ee47>62d 1ee49>64a 1ee4b/2>644 1ee4e>633 1ee4f>639",
    "1ee51>635 1ee52>642 1ee54>634 1ee57>62e 1ee59>636 1ee5b>63a 1ee5d>6ba 1ee5f>66f 1ee61>628",
    "1ee62>62c 1ee64>647 1ee67>62d 1ee68>637 1ee69>64a 1ee6a/2>643 1ee6d>646 1ee6e>633 1ee6f>639",
    "1ee70>641 1ee71>635 1ee72>642 1ee74>634 1ee75+2>62a 1ee77>62e 1ee79>636 1ee7a>638 1ee7b>63a",
    "1ee7c>66e 1ee7e>6a1 1ee80+2>627 1ee82>62c 1ee83>62f 1ee84+2>647 1ee86>632 1ee87>62d",
    "1ee88>637 1ee89>64a 1ee8b+3>644 1ee8e>633 1ee8f>639 1ee90>641 1ee91>635 1ee92>642 1ee93>631",
    "1ee94>634 1ee95+2>62a 1ee97>62e 1ee98>630 1ee99>636 1ee9a>638 1ee9b>63a 1eea1>628 1eea2>62c",
    "1eea3>62f 1eea5>648 1eea6>632 1eea7>62d 1eea8>637 1eea9>64a 1eeab+3>644 1eeae>633 1eeaf>639",
    "1eeb0>641 1eeb1>635 1eeb2>642 1eeb3>631 1eeb4>634 1eeb5+2>62a 1eeb7>62e 1eeb8>630 1eeb9>636",
    "1eeba>638 1eebb>63a"]

/-- Ligatures, fractions and signs mapped to several characters. -/
def letterTexts : List MappedText := MappedText.ofTable [
    "a8>20,308 af>20,304 b4>20,301 b8>20,327 bc>31,2044,34 bd>31,2044,32 be>33,2044,34 130>69,307",
    "132>69,6a 133>69,6a 13f>6c,b7 140>6c,b7 149>2bc,6e 1c4>64,17e 1c5>64,17e 1c6>64,17e",
    "1c7>6c,6a 1c8>6c,6a 1c9>6c,6a 1ca>6e,6a 1cb>6e,6a 1cc>6e,6a 1f1>64,7a 1f2>64,7a 1f3>64,7a",
    "2d8>20,306 2d9>20,307 2da>20,30a 2db>20,328 2dc>20,303 2dd>20,30b 344>308,301 37a>20,3b9",
    "384>20,301 385>20,308,301 587>565,582 675>627,674 676>648,674 677>6c7,674 678>64a,674",
    "958>915,93c 959>916,93c 95a>917,93c 95b>91c,93c 95c>921,93c 95d>922,93c 95e>92b,93c",
    "95f>92f,93c 9dc>9a1,9bc 9dd>9a2,9bc 9df>9af,9bc a33>a32,a3c a36>a38,a3c a59>a16,a3c",
    "a5a>a17,a3c a5b>a1c,a3c a5e>a2b,a3c b5c>b21,b3c b5d>b22,b3c e33>e4d,e32 eb3>ecd,eb2",
    "edc>eab,e99 edd>eab,ea1 f43>f42,fb7 f4d>f4c,fb7 f52>f51,fb7 f57>f56,fb7 f5c>f5b,fb7",
    "f69>f40,fb5 f73>f71,f72 f75>f71,f74 f76>fb2,f80 f77>fb2,f71,f80 f78>fb3,f80 f79>fb3,f71,f80",
    "f81>f71,f80 f93>f92,fb7 f9d>f9c,fb7 fa2>fa1,fb7 fa7>fa6,fb7 fac>fab,fb7 fb9>f90,fb5",
    "1e9a>61,2be 1f80>1f00,3b9 1f81>1f01,3b9 1f82>1f02,3b9 1f83>1f03,3b9 1f84>1f04,3b9",
    "1f85>1f05,3b9 1f86>1f06,3b9 1f87>1f07,3b9 1f88>1f00,3b9 1f89>1f01,3b9 1f8a>1f02,3b9",
    "1f8b>1f03,3b9 1f8c>1f04,3b9 1f8d>1f05,3b9 1f8e>1f06,3b9 1f8f>1f07,3b9 1f90>1f20,3b9",
    "1f91>1f21,3b9 1f92>1f22,3b9 1f93>1f23,3b9 1f94>1f24,3b9 1f95>1f25,3b9 1f96>1f26,3b9",
    "1f97>1f27,3b9 1f98>1f20,3b9 1f99>1f21,3b9 1f9a>1f22,3b9 1f9b>1f23,3b9 1f9c>1f24,3b9",
    "1f9d>1f25,3b9 1f9e>1f26,3b9 1f9f>1f27,3b9 1fa0>1f60,3b9 1fa1>1f61,3b9 1fa2>1f62,3b9",
    "1fa3>1f63,3b9 1fa4>1f64,3b9 1fa5>1f65,3b9 1fa6>1f66,3b9 1fa7>1f67,3b9 1fa8>1f60,3b9",
    "1fa9>1f61,3b9 1faa>1f62,3b9 1fab>1f63,3b9 1fac>1f64,3b9 1fad>1f65,3b9 1fae>1f66,3b9",
    "1faf>1f67,3b9 1fb2>1f70,3b9 1fb3>3b1,3b9 1fb4>3ac,3b9 1fb7>1fb6,3b9 1fbc>3b1,3b9 1fbd>20,313",
    "1fbf>20,313 1fc0>20,342 1fc1>20,308,342 1fc2>1f74,3b9 1fc3>3b7,3b9 1fc4>3ae,3b9",
    "1fc7>1fc6,3b9 1fcc>3b7,3b9 1fcd>20,313,300 1fce>20,313,301 1fcf>20,313,342 1fdd>20,314,300",
    "1fde>20,314,301 1fdf>20,314,342 1fed>20,308,300 1fee>20,308,301 1ff2>1f7c,3b9 1ff3>3c9,3b9",
    "1ff4>3ce,3b9 1ff7>1ff6,3b9 1ffc>3c9,3b9 1ffd>20,301 1ffe>20,314 2017>20,333 2033>2032,2032",
    "2034>2032,2032,2032 2036>2035,2035 2037>2035,2035,2035 203c>21,21 203e>20,305 2047>3f,3f",
    "2048>3f,21 2049>21,3f 2057>2032,2032,2032,2032 20a8>72,73 2100>61,2f,63 2101>61,2f,73",
    "2103>b0,63 2105>63,2f,6f 2106>63,2f,75 2109>b0,66 2116>6e,6f 2120>73,6d 2121>74,65,6c",
    "2122>74,6d 213b>66,61,78 2150>31,2044,37 2151>31,2044,39 2152>31,2044,31,30 2153>31,2044,33",
    "2154>32,2044,33 2155>31,2044,35 2156>32,2044,35 2157>33,2044,35 2158>34,2044,35",
    "2159>31,2044,36 215a>35,2044,36 215b>31,2044,38 215c>33,2044,38 215d>35,2044,38",
    "215e>37,2044,38 215f>31,2044 2161>69,69 2162>69,69,69 2163>69,76 2165>76,69 2166>76,69,69",
    "2167>76,69,69,69 2168>69,78 216a>78,69 216b>78,69,69 2171>69,69 2172>69,69,69 2173>69,76",
    "2175>76,69 2176>76,69,69 2177>76,69,69,69 2178>69,78 217a>78,69 217b>78,69,69",
    "2189>30,2044,33 222c>222b,222b 222d>222b,222b,222b 222f>222e,222e 2230>222e,222e,222e",
    "2469>31,30 246a>31,31 246b>31,32 246c>31,33 246d>31,34 246e>31,35 246f>31,36 2470>31,37",
    "2471>31,38 2472>31,39 2473>32,30 2474>28,31,29 2475>28,32,29 2476>28,33,29 2477>28,34,29",
    "2478>28,35,29 2479>28,36,29 247a>28,37,29 247b>28,38,29 247c>28,39,29 247d>28,31,30,29",
    "247e>28,31,31,29 247f>28,31,32,29 2480>28,31,33,29 2481>28,31,34,29 2482>28,31,35,29",
    "2483>28,31,36,29 2484>28,31,37,29 2485>28,31,38,29 2486>28,31,39,29 2487>28,32,30,29",
    "249c>28,61,29 249d>28,62,29 249e>28,63,29 249f>28,64,29 24a0>28,65,29 24a1>28,66,29",
    "24a2>28,67,29 24a3>28,68,29 24a4>28,69,29 24a5>28,6a,29 24a6>28,6b,29 24a7>28,6c,29",
    "24a8>28,6d,29 24a9>28,6e,29 24aa>28,6f,29 24ab>28,70,29 24ac>28,71,29 24ad>28,72,29",
    "24ae>28,73,29 24af>28,74,29 24b0>28,75,29 24b1>28,76,29 24b2>28,77,29 24b3>28,78,29",
    "24b4>28,79,29 24b5>28,7a,29 2a0c>222b,222b,222b,222b 2a74>3a,3a,3d 2a75>3d,3d 2a76>3d,3d,3d",
    "2adc>2add,338 309b>20,3099 309c>20,309a 309f>3088,308a 30ff>30b3,30c8 fb00>66,66 fb01>66,69",
    "fb02>66,6c fb03>66,66,69 fb04>66,66,6c fb05>73,74 fb06>73,74 fb13>574,576 fb14>574,565",
    "fb15>574,56b fb16>57e,576 fb17>574,56d ffe3>20,304 1d15e>1d157,1d165 1d15f>1d158,1d165",
    "1d160>1d158,1d165,1d16e 1d161>1d158,1d165,1d16f 1d162>1d158,1d165,1d170",
    "1d163>1d158,1d165,1d171 1d164>1d158,1d165,1d172 1d1bb>1d1b9,1d165 1d1bc>1d1ba,1d165",
    "1d1bd>1d1b9,1d165,1d16e 1d1be>1d1ba,1d165,1d16e 1d1bf>1d1b9,1d165,1d16f",
    "1d1c0>1d1ba,1d165,1d16f"]

end FlowConsole.Url
