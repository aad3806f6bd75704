/-!
# The ages of characters, as text

A table of runs: a run is named `V` and the edition that assigned its code points. Code points that
no edition has assigned are not told apart here; they belong to the run before them.
-/

namespace TraceSampler.Unicode

/-- The runs, a few to a row. -/
def ageRows : List String :=
  ["0V1.1 1f6V3.0 1faV1.1 218V3.0 220V3.2 221V4.0 222V3.0 234V4.0 237V4.1 242V5.0 250V1.1",
   "2a9V3.0 2aeV4.0 2b0V1.1 2dfV3.0 2e0V1.1 2eaV3.0 2efV4.0 300V1.1 346V3.0 34fV3.2 350V4.0",
   "358V4.1 35dV4.0 360V1.1 362V3.0 363V3.2 370V5.1 374V1.1 376V5.1 37aV1.1 37bV5.0 37eV1.1",
   "37fV7.0 384V1.1 3cfV5.1 3d0V1.1 3d7V3.0 3d8V3.2 3daV1.1 3dbV3.0 3dcV1.1 3ddV3.0 3deV1.1",
   "3dfV3.0 3e0V1.1 3e1V3.0 3e2V1.1 3f4V3.1 3f6V3.2 3f7V4.0 3fcV4.1 400V3.0 401V1.1 40dV3.0",
   "40eV1.1 450V3.0 451V1.1 45dV3.0 45eV1.1 487V5.1 488V3.0 48aV3.2 48cV3.0 490V1.1 4c5V3.2",
   "4c7V1.1 4c9V3.2 4cbV1.1 4cdV3.2 4cfV5.0 4d0V1.1 4ecV3.0 4eeV1.1 4f6V4.1 4f8V1.1 4faV5.0",
   "500V3.2 510V5.0 514V5.1 524V5.2 526V6.0 528V7.0 531V1.1 560V11.0 561V1.1 588V11.0 589V1.1",
   "58aV3.0 58dV7.0 58fV6.1 591V2.0 5a2V4.1 5a3V2.0 5b0V1.1 5baV5.0 5bbV1.1 5c4V2.0 5c5V4.1",
   "5d0V1.1 5efV11.0 5f0V1.1 600V4.0 604V6.1 605V7.0 606V5.1 60bV4.1 60cV1.1 60dV4.0 616V5.1",
   "61bV1.1 61cV6.3 61dV14.0 61eV4.1 61fV1.1 620V6.0 621V1.1 63bV5.1 640V1.1 653V3.0 656V4.0",
   "659V4.1 65fV6.0 660V1.1 66eV3.2 670V1.1 6b8V3.0 6baV1.1 6bfV3.0 6c0V1.1 6cfV3.0 6d0V1.1",
   "6eeV4.0 6f0V1.1 6faV3.0 6ffV4.0 700V3.0 72dV4.0 730V3.0 74dV4.0 750V4.1 76eV5.1 780V3.0",
   "7b1V3.2 7c0V5.0 7fdV11.0 800V5.2 840V6.0 860V10.0 870V14.0 897V16.0 898V14.0 8a0V6.1 8a1V7.0",
   "8a2V6.1 8adV7.0 8b3V8.0 8b5V14.0 8b6V9.0 8beV13.0 8c8V14.0 8d3V11.0 8d4V9.0 8e3V8.0 8e4V6.1",
   "8ffV7.0 900V5.2 901V1.1 904V4.0 905V1.1 93aV6.0 93cV1.1 94eV5.2 94fV6.0 950V1.1 955V5.2",
   "956V6.0 958V1.1 971V5.1 973V6.0 978V7.0 979V5.2 97bV5.0 97dV4.1 97eV5.0 980V7.0 981V1.1",
   "9bdV4.0 9beV1.1 9ceV4.1 9d7V1.1 9fbV5.2 9fcV10.0 9feV11.0 a01V4.0 a02V1.1 a03V4.0 a05V1.1",
   "a51V5.1 a59V1.1 a75V5.1 a76V11.0 a81V1.1 a8cV4.0 a8dV1.1 ae1V4.0 ae6V1.1 af0V6.1 af1V4.0",
   "af9V8.0 afaV10.0 b01V1.1 b35V4.0 b36V1.1 b44V5.1 b47V1.1 b55V13.0 b56V1.1 b62V5.1 b66V1.1",
   "b71V4.0 b72V6.0 b82V1.1 bb6V4.1 bb7V1.1 bd0V5.1 bd7V1.1 be6V4.1 be7V1.1 bf3V4.0 c00V7.0",
   "c01V1.1 c04V11.0 c05V1.1 c34V7.0 c35V1.1 c3cV14.0 c3dV5.1 c3eV1.1 c58V5.1 c5aV8.0 c5dV14.0",
   "c60V1.1 c62V5.1 c66V1.1 c77V12.0 c78V5.1 c80V9.0 c81V7.0 c82V1.1 c84V11.0 c85V1.1 cbcV4.0",
   "cbeV1.1 cddV14.0 cdeV1.1 ce2V5.0 ce6V1.1 cf1V5.0 cf3V15.0 d00V10.0 d01V7.0 d02V1.1 d04V13.0",
   "d05V1.1 d29V6.0 d2aV1.1 d3aV6.0 d3bV10.0 d3dV5.1 d3eV1.1 d44V5.1 d46V1.1 d4eV6.0 d4fV9.0",
   "d57V1.1 d58V9.0 d5fV8.0 d60V1.1 d62V5.1 d66V1.1 d70V5.1 d76V9.0 d79V5.1 d81V13.0 d82V3.0",
   "de6V7.0 df2V3.0 e01V1.1 e86V12.0 e87V1.1 e89V12.0 e8aV1.1 e8cV12.0 e8dV1.1 e8eV12.0 e94V1.1",
   "e98V12.0 e99V1.1 ea0V12.0 ea1V1.1 ea8V12.0 eaaV1.1 eacV12.0 eadV1.1 ebaV12.0 ebbV1.1",
   "eceV15.0 ed0V1.1 edeV6.1 f00V2.0 f6aV3.0 f6bV5.1 f71V2.0 f8cV6.0 f90V2.0 f96V3.0 f97V2.0",
   "faeV3.0 fb1V2.0 fb8V3.0 fb9V2.0 fbaV3.0 fceV5.1 fcfV3.0 fd0V4.1 fd2V5.1 fd5V5.2 fd9V6.0",
   "1000V3.0 1022V5.1 1023V3.0 1028V5.1 1029V3.0 102bV5.1 102cV3.0 1033V5.1 1036V3.0 103aV5.1",
   "1040V3.0 105aV5.1 109aV5.2 109eV5.1 10a0V1.1 10c7V6.1 10d0V1.1 10f7V3.2 10f9V4.1 10fbV1.1",
   "10fcV4.1 10fdV6.1 1100V1.1 115aV5.2 115fV1.1 11a3V5.2 11a8V1.1 11faV5.2 1200V3.0 1207V4.1",
   "1208V3.0 1247V4.1 1248V3.0 1287V4.1 1288V3.0 12afV4.1 12b0V3.0 12cfV4.1 12d0V3.0 12efV4.1",
   "12f0V3.0 130fV4.1 1310V3.0 131fV4.1 1320V3.0 1347V4.1 1348V3.0 135dV6.0 135fV4.1 1361V3.0",
   "1380V4.1 13a0V3.0 13f5V8.0 1400V5.2 1401V3.0 1677V5.2 1680V3.0 16f1V7.0 1700V3.2 170dV14.0",
   "170eV3.2 1715V14.0 1720V3.2 1780V3.0 17ddV4.0 17e0V3.0 17f0V4.0 1800V3.0 180fV14.0 1810V3.0",
   "1878V11.0 1880V3.0 18aaV5.1 18b0V5.2 1900V4.0 191dV7.0 1920V4.0 1980V4.1 19aaV5.2 19b0V4.1",
   "19daV5.2 19deV4.1 19e0V4.0 1a00V4.1 1a20V5.2 1ab0V7.0 1abfV13.0 1ac1V14.0 1b00V5.0 1b4cV14.0",
   "1b4eV16.0 1b50V5.0 1b7dV14.0 1b7fV16.0 1b80V5.1 1babV6.1 1baeV5.1 1bbaV6.1 1bc0V6.0 1c00V5.1",
   "1c80V9.0 1c89V16.0 1c90V11.0 1cc0V6.1 1cd0V5.2 1cf3V6.1 1cf7V10.0 1cf8V7.0 1cfaV12.0",
   "1d00V4.0 1d6cV4.1 1dc4V5.0 1dcbV5.1 1de7V7.0 1df6V10.0 1dfaV14.0 1dfbV9.0 1dfcV6.0 1dfdV5.2",
   "1dfeV5.0 1e00V1.1 1e9bV2.0 1e9cV5.1 1ea0V1.1 1efaV5.1 1f00V1.1 202fV3.0 2030V1.1 2047V3.2",
   "2048V3.0 204eV3.2 2053V4.0 2055V4.1 2057V3.2 2058V4.1 205fV3.2 2064V5.1 2066V6.3 206aV1.1",
   "2071V3.2 2074V1.1 2090V4.1 2095V6.0 20a0V1.1 20abV2.0 20acV2.1 20adV3.0 20b0V3.2 20b2V4.1",
   "20b6V5.2 20b9V6.0 20baV6.2 20bbV7.0 20beV8.0 20bfV10.0 20c0V14.0 20d0V1.1 20e2V3.0 20e4V3.2",
   "20ebV4.1 20ecV5.0 20f0V5.1 2100V1.1 2139V3.0 213bV4.0 213cV4.1 213dV3.2 214cV4.1 214dV5.0",
   "214fV5.1 2150V5.2 2153V1.1 2183V3.0 2184V5.0 2185V5.1 2189V5.2 218aV8.0 2190V1.1 21ebV3.0",
   "21f4V3.2 2200V1.1 22f2V3.2 2300V1.1 2301V3.0 2302V1.1 237bV3.0 237cV3.2 237dV3.0 239bV3.2",
   "23cfV4.0 23d1V4.1 23dcV5.0 23e8V5.2 23e9V6.0 23f4V7.0 23fbV9.0 23ffV10.0 2400V1.1 2425V3.0",
   "2427V16.0 2440V1.1 24ebV3.2 24ffV4.0 2500V1.1 2596V3.2 25a0V1.1 25f0V3.0 25f8V3.2 2600V1.1",
   "2614V4.0 2616V3.2 2618V4.1 2619V3.0 261aV1.1 2670V3.0 2672V3.2 267eV4.1 2680V3.2 268aV4.0",
   "2692V4.1 269dV5.1 269eV5.2 26a0V4.0 26a2V4.1 26b2V5.0 26b3V5.1 26bdV5.2 26c0V5.1 26c4V5.2",
   "26ceV6.0 26cfV5.2 26e2V6.0 26e3V5.2 26e4V6.0 26e8V5.2 2700V7.0 2701V1.1 2705V6.0 2706V1.1",
   "270aV6.0 270cV1.1 2728V6.0 2729V1.1 274cV6.0 274dV1.1 274eV6.0 274fV1.1 2753V6.0 2756V1.1",
   "2757V5.2 2758V1.1 275fV6.0 2761V1.1 2768V3.2 2776V1.1 2795V6.0 2798V1.1 27b0V6.0 27b1V1.1",
   "27bfV6.0 27c0V4.1 27c7V5.0 27cbV6.1 27ccV5.1 27cdV6.1 27ceV6.0 27d0V3.2 27ecV5.1 27f0V3.2",
   "2800V3.0 2900V3.2 2b00V4.0 2b0eV4.1 2b14V5.0 2b1bV5.1 2b20V5.0 2b24V5.1 2b4dV7.0 2b50V5.1",
   "2b55V5.2 2b5aV7.0 2b97V13.0 2b98V7.0 2bbaV11.0 2bbdV7.0 2bc9V12.0 2bcaV7.0 2bd2V10.0",
   "2bd3V11.0 2becV8.0 2bf0V11.0 2bffV12.0 2c00V4.1 2c2fV14.0 2c30V4.1 2c5fV14.0 2c60V5.0",
   "2c6dV5.1 2c70V5.2 2c71V5.1 2c74V5.0 2c78V5.1 2c7eV5.2 2c80V4.1 2cebV5.2 2cf2V6.1 2cf9V4.1",
   "2d27V6.1 2d30V4.1 2d66V6.1 2d6fV4.1 2d70V6.0 2d80V4.1 2de0V5.1 2e00V4.1 2e18V5.1 2e1cV4.1",
   "2e1eV5.1 2e31V5.2 2e32V6.1 2e3cV7.0 2e43V9.0 2e45V10.0 2e4aV11.0 2e4fV12.0 2e50V13.0",
   "2e53V14.0 2e80V3.0 2ffcV15.1 3000V1.1 3038V3.0 303bV3.2 303eV3.0 303fV1.1 3095V3.2 3099V1.1",
   "309fV3.2 30a1V1.1 30ffV3.2 3105V1.1 312dV5.1 312eV10.0 312fV11.0 3131V1.1 31a0V3.0 31b8V6.0",
   "31bbV13.0 31c0V4.1 31d0V5.1 31e4V16.0 31efV15.1 31f0V3.2 3200V1.1 321dV4.0 3220V1.1 3244V5.2",
   "3250V4.0 3251V3.2 3260V1.1 327cV4.0 327eV4.1 327fV1.1 32b1V3.2 32c0V1.1 32ccV4.0 32d0V1.1",
   "32ffV12.1 3300V1.1 3377V4.0 337bV1.1 33deV4.0 33e0V1.1 33ffV4.0 3400V3.0 4db6V13.0 4dc0V4.0",
   "4e00V1.1 9fa6V4.1 9fbcV5.1 9fc4V5.2 9fccV6.1 9fcdV8.0 9fd6V10.0 9febV11.0 9ff0V13.0",
   "9ffdV14.0 a000V3.0 a4a2V3.2 a4a4V3.0 a4b4V3.2 a4b5V3.0 a4c1V3.2 a4c2V3.0 a4c5V3.2 a4c6V3.0",
   "a4d0V5.2 a500V5.1 a660V6.0 a662V5.1 a674V6.1 a67cV5.1 a698V7.0 a69eV8.0 a69fV6.1 a6a0V5.2",
   "a700V4.1 a717V5.0 a71bV5.1 a720V5.0 a722V5.1 a78dV6.0 a78fV8.0 a790V6.0 a792V6.1 a794V7.0",
   "a7a0V6.0 a7aaV6.1 a7abV7.0 a7aeV9.0 a7afV11.0 a7b0V7.0 a7b2V8.0 a7b8V11.0 a7baV12.0",
   "a7c0V14.0 a7c2V12.0 a7c7V13.0 a7cbV16.0 a7d0V14.0 a7daV16.0 a7f2V14.0 a7f5V13.0 a7f7V7.0",
   "a7f8V6.1 a7faV6.0 a7fbV5.1 a800V4.1 a82cV13.0 a830V5.2 a840V5.0 a880V5.1 a8c5V9.0 a8ceV5.1",
   "a8e0V5.2 a8fcV8.0 a8feV11.0 a900V5.1 a960V5.2 a9e0V7.0 aa00V5.1 aa60V5.2 aa7cV7.0 aa80V5.2",
   "aae0V6.1 ab01V6.0 ab30V7.0 ab60V8.0 ab64V7.0 ab66V12.0 ab68V13.0 ab70V8.0 abc0V5.2 ac00V2.0",
   "d7b0V5.2 d800V2.0 e000V1.1 fa2eV6.1 fa30V3.2 fa6bV5.2 fa70V4.1 fb00V1.1 fb1dV3.0 fb1eV1.1",
   "fbb2V6.0 fbc2V14.0 fbd3V1.1 fd40V14.0 fd50V1.1 fdcfV14.0 fdd0V3.1 fdf0V1.1 fdfcV3.2 fdfdV4.0",
   "fdfeV14.0 fe00V3.2 fe10V4.1 fe20V1.1 fe24V5.1 fe27V7.0 fe2eV8.0 fe30V1.1 fe45V3.2 fe47V4.0",
   "fe49V1.1 fe73V3.2 fe74V1.1 ff5fV3.2 ff61V1.1 fff9V3.0 fffcV2.1 fffdV1.1 10000V4.0 10140V4.1",
   "1018bV7.0 1018dV9.0 10190V5.1 1019cV13.0 101a0V7.0 101d0V5.1 102e0V7.0 10300V3.1 1031fV7.0",
   "10320V3.1 1032dV10.0 10330V3.1 10350V7.0 10380V4.0 103a0V4.1 10400V3.1 10426V4.0 10428V3.1",
   "1044eV4.0 104b0V9.0 10500V7.0 10570V14.0 105c0V16.0 10600V7.0 10780V14.0 10800V4.0 10840V5.2",
   "10860V7.0 108e0V8.0 10900V5.0 1091aV5.2 1091fV5.0 10920V5.1 10980V6.1 109bcV8.0 109beV6.1",
   "109c0V8.0 10a00V4.1 10a34V11.0 10a38V4.1 10a48V11.0 10a50V4.1 10a60V5.2 10a80V7.0 10b00V5.2",
   "10b80V7.0 10c00V5.2 10c80V8.0 10d00V11.0 10d40V16.0 10e60V5.2 10e80V13.0 10ec2V16.0",
   "10efdV15.0 10f00V11.0 10f70V14.0 10fb0V13.0 10fe0V12.0 11000V6.0 11070V14.0 1107fV7.0",
   "11080V5.2 110c2V14.0 110cdV11.0 110d0V6.1 11144V11.0 11147V13.0 11150V7.0 11180V6.1",
   "111c9V8.0 111cdV7.0 111ceV13.0 111d0V6.1 111daV7.0 111dbV8.0 111e1V7.0 1123eV9.0 1123fV15.0",
   "11280V8.0 112b0V7.0 11300V8.0 11301V7.0 1133bV11.0 1133cV7.0 11350V8.0 11357V7.0 11380V16.0",
   "11400V9.0 1145aV13.0 1145bV9.0 1145eV11.0 1145fV12.0 11460V13.0 11480V7.0 115caV8.0",
   "11600V7.0 11660V9.0 11680V6.1 116b8V12.0 116b9V14.0 116c0V6.1 116d0V16.0 11700V8.0",
   "1171aV11.0 1171dV8.0 11740V14.0 11800V11.0 118a0V7.0 11900V13.0 119a0V12.0 11a00V10.0",
   "11a84V12.0 11a86V10.0 11a9dV11.0 11a9eV10.0 11ab0V14.0 11ac0V7.0 11b00V15.0 11bc0V16.0",
   "11c00V9.0 11d00V10.0 11d60V11.0 11f00V15.0 11f5aV16.0 11fb0V13.0 11fc0V12.0 12000V5.0",
   "1236fV7.0 12399V8.0 12400V5.0 12463V7.0 12470V5.0 12474V7.0 12480V8.0 12f90V14.0 13000V5.2",
   "1342fV15.0 13430V12.0 13439V15.0 13460V16.0 14400V8.0 16100V16.0 16800V6.0 16a40V7.0",
   "16a70V14.0 16ad0V7.0 16d40V16.0 16e40V11.0 16f00V6.1 16f45V12.0 16f50V6.1 16f7fV12.0",
   "16f8fV6.1 16fe0V9.0 16fe1V10.0 16fe2V12.0 16fe4V13.0 17000V9.0 187edV11.0 187f2V12.0",
   "18800V9.0 18af3V13.0 18cffV16.0 18d00V13.0 1aff0V14.0 1b000V6.0 1b002V10.0 1b11fV14.0",
   "1b132V15.0 1b150V12.0 1b155V15.0 1b164V12.0 1b170V10.0 1bc00V7.0 1cc00V16.0 1cf00V14.0",
   "1d000V3.1 1d129V5.1 1d12aV3.1 1d1deV8.0 1d1e9V14.0 1d200V4.1 1d2c0V15.0 1d2e0V11.0 1d300V4.0",
   "1d360V5.0 1d372V11.0 1d400V3.1 1d4c1V4.0 1d4c2V3.1 1d6a4V4.1 1d6a8V3.1 1d7caV5.0 1d7ceV3.1",
   "1d800V8.0 1df00V14.0 1df25V15.0 1e000V9.0 1e030V15.0 1e100V12.0 1e290V14.0 1e2c0V12.0",
   "1e4d0V15.0 1e5d0V16.0 1e7e0V14.0 1e800V7.0 1e900V9.0 1e94bV12.0 1e950V9.0 1ec71V11.0",
   "1ed01V12.0 1ee00V6.1 1f000V5.1 1f0a0V6.0 1f0bfV7.0 1f0c1V6.0 1f0e0V7.0 1f100V5.2 1f10bV7.0",
   "1f10dV13.0 1f110V5.2 1f12fV11.0 1f130V6.0 1f131V5.2 1f132V6.0 1f13dV5.2 1f13eV6.0 1f13fV5.2",
   "1f140V6.0 1f142V5.2 1f143V6.0 1f146V5.2 1f147V6.0 1f14aV5.2 1f14fV6.0 1f157V5.2 1f158V6.0",
   "1f15fV5.2 1f160V6.0 1f16aV6.1 1f16cV12.0 1f16dV13.0 1f170V6.0 1f179V5.2 1f17aV6.0 1f17bV5.2",
   "1f17dV6.0 1f17fV5.2 1f180V6.0 1f18aV5.2 1f18eV6.0 1f190V5.2 1f191V6.0 1f19bV9.0 1f1adV13.0",
   "1f1e6V6.0 1f200V5.2 1f201V6.0 1f210V5.2 1f232V6.0 1f23bV9.0 1f240V5.2 1f250V6.0 1f260V10.0",
   "1f300V6.0 1f321V7.0 1f32dV8.0 1f330V6.0 1f336V7.0 1f337V6.0 1f37dV7.0 1f37eV8.0 1f380V6.0",
   "1f394V7.0 1f3a0V6.0 1f3c5V7.0 1f3c6V6.0 1f3cbV7.0 1f3cfV8.0 1f3d4V7.0 1f3e0V6.0 1f3f1V7.0",
   "1f3f8V8.0 1f400V6.0 1f43fV7.0 1f440V6.0 1f441V7.0 1f442V6.0 1f4f8V7.0 1f4f9V6.0 1f4fdV7.0",
   "1f4ffV8.0 1f500V6.0 1f53eV7.0 1f540V6.1 1f544V7.0 1f54bV8.0 1f550V6.0 1f568V7.0 1f57aV9.0",
   "1f57bV7.0 1f5a4V9.0 1f5a5V7.0 1f5fbV6.0 1f600V6.1 1f601V6.0 1f611V6.1 1f612V6.0 1f615V6.1",
   "1f616V6.0 1f617V6.1 1f618V6.0 1f619V6.1 1f61aV6.0 1f61bV6.1 1f61cV6.0 1f61fV6.1 1f620V6.0",
   "1f626V6.1 1f628V6.0 1f62cV6.1 1f62dV6.0 1f62eV6.1 1f630V6.0 1f634V6.1 1f635V6.0 1f641V7.0",
   "1f643V8.0 1f645V6.0 1f650V7.0 1f680V6.0 1f6c6V7.0 1f6d0V8.0 1f6d1V9.0 1f6d3V10.0 1f6d5V12.0",
   "1f6d6V13.0 1f6dcV15.0 1f6ddV14.0 1f6e0V7.0 1f6f4V9.0 1f6f7V10.0 1f6f9V11.0 1f6faV12.0",
   "1f6fbV13.0 1f700V6.0 1f774V15.0 1f780V7.0 1f7d5V11.0 1f7d9V15.0 1f7e0V12.0 1f7f0V14.0",
   "1f800V7.0 1f8b0V13.0 1f8b2V16.0 1f900V10.0 1f90cV13.0 1f90dV12.0 1f910V8.0 1f919V9.0",
   "1f91fV10.0 1f920V9.0 1f928V10.0 1f930V9.0 1f931V10.0 1f933V9.0 1f93fV12.0 1f940V9.0",
   "1f94cV10.0 1f94dV11.0 1f950V9.0 1f95fV10.0 1f96cV11.0 1f971V12.0 1f972V13.0 1f973V11.0",
   "1f977V13.0 1f979V14.0 1f97aV11.0 1f97bV12.0 1f97cV11.0 1f980V8.0 1f985V9.0 1f992V10.0",
   "1f998V11.0 1f9a3V13.0 1f9a5V12.0 1f9abV13.0 1f9aeV12.0 1f9b0V11.0 1f9baV12.0 1f9c0V8.0",
   "1f9c1V11.0 1f9c3V12.0 1f9cbV13.0 1f9ccV14.0 1f9cdV12.0 1f9d0V10.0 1f9e7V11.0 1fa00V12.0",
   "1fa60V11.0 1fa70V12.0 1fa74V13.0 1fa75V15.0 1fa78V12.0 1fa7bV14.0 1fa80V12.0 1fa83V13.0",
   "1fa87V15.0 1fa89V16.0 1fa90V12.0 1fa96V13.0 1faa9V14.0 1faadV15.0 1fab0V13.0 1fab7V14.0",
   "1fabbV15.0 1fabeV16.0 1fabfV15.0 1fac0V13.0 1fac3V14.0 1fac6V16.0 1faceV15.0 1fad0V13.0",
   "1fad7V14.0 1fadaV15.0 1fadcV16.0 1fae0V14.0 1fae8V15.0 1fae9V16.0 1faf0V14.0 1faf7V15.0",
   "1fb00V13.0 1fbcbV16.0 1fbf0V13.0 1fffeV2.0 20000V3.1 2a6d7V13.0 2a6deV14.0 2a700V5.2",
   "2b735V14.0 2b739V15.0 2b740V6.0 2b820V8.0 2ceb0V10.0 2ebf0V15.1 2f800V3.1 2fffeV2.0",
   "30000V13.0 31350V15.0 3fffeV2.0 e0001V3.1 e0100V4.0 efffeV2.0"]

end TraceSampler.Unicode
