/-!
# Letters and signs that stand for others

Code points and ranges in hexadecimal, each with what it stands for: after an
equals sign the characters that each one stands for, perhaps none; after a plus
sign the character of the first one, the others going along; a slash where every
other one, beginning with the first, stands for the one after it.
-/

namespace FeedReader.Url

/-- Code points up to the compatibility forms. -/
def letterImages : List String := [
  "a0=20 a8=20.308 aa=61 ad= af=20.304 b2-b3+32 b4=20.301 b5=3bc b8=20.327 b9=31 ba=6f",
  "bc=31.2044.34 bd=31.2044.32 be=33.2044.34 c0-d6+e0 d8-de+f8 100-12e/ 130=69.307 132-133=69.6a",
  "134-136/ 139-13d/ 13f-140=6c.b7 141-147/ 149=2bc.6e 14a-176/ 178=ff 179-17d/ 17f=73 181=253",
  "182-184/ 186=254 187=188 189-18a+256 18b=18c 18e=1dd 18f=259 190=25b 191=192 193=260 194=263",
  "196=269 197=268 198=199 19c=26f 19d=272 19f=275 1a0-1a4/ 1a6=280 1a7=1a8 1a9=283 1ac=1ad",
  "1ae=288 1af=1b0 1b1-1b2+28a 1b3-1b5/ 1b7=292 1b8=1b9 1bc=1bd 1c4-1c6=64.17e 1c7-1c9=6c.6a",
  "1ca-1cc=6e.6a 1cd-1db/ 1de-1ee/ 1f1-1f3=64.7a 1f4=1f5 1f6=195 1f7=1bf 1f8-21e/ 220=19e",
  "222-232/ 23a=2c65 23b=23c 23d=19a 23e=2c66 241=242 243=180 244=289 245=28c 246-24e/ 2b0=68",
  "2b1=266 2b2=6a 2b3=72 2b4=279 2b5=27b 2b6=281 2b7=77 2b8=79 2d8=20.306 2d9=20.307 2da=20.30a",
  "2db=20.328 2dc=20.303 2dd=20.30b 2e0=263 2e1=6c 2e2=73 2e3=78 2e4=295 340-341+300 343=313",
  "344=308.301 345=3b9 34f= 370-372/ 374=2b9 376=377 37a=20.3b9 37e=3b 37f=3f3 384=20.301",
  "385=20.308.301 386=3ac 387=b7 388-38a+3ad 38c=3cc 38e-38f+3cd 391-3a1+3b1 3a3-3ab+3c3 3cf=3d7",
  "3d0=3b2 3d1=3b8 3d2=3c5 3d3=3cd 3d4=3cb 3d5=3c6 3d6=3c0 3d8-3ee/ 3f0=3ba 3f1=3c1 3f2=3c3",
  "3f4=3b8 3f5=3b5 3f7=3f8 3f9=3c3 3fa=3fb 3fd-3ff+37b 400-40f+450 410-42f+430 460-480/ 48a-4be/",
  "4c0=4cf 4c1-4cd/ 4d0-52e/ 531-556+561 587=565.582 675=627.674 676=648.674 677=6c7.674",
  "678=64a.674 958=915.93c 959=916.93c 95a=917.93c 95b=91c.93c 95c=921.93c 95d=922.93c",
  "95e=92b.93c 95f=92f.93c 9dc=9a1.9bc 9dd=9a2.9bc 9df=9af.9bc a33=a32.a3c a36=a38.a3c",
  "a59=a16.a3c a5a=a17.a3c a5b=a1c.a3c a5e=a2b.a3c b5c=b21.b3c b5d=b22.b3c e33=e4d.e32",
  "eb3=ecd.eb2 edc=eab.e99 edd=eab.ea1 f0c=f0b f43=f42.fb7 f4d=f4c.fb7 f52=f51.fb7 f57=f56.fb7",
  "f5c=f5b.fb7 f69=f40.fb5 f73=f71.f72 f75=f71.f74 f76=fb2.f80 f77=fb2.f71.f80 f78=fb3.f80",
  "f79=fb3.f71.f80 f81=f71.f80 f93=f92.fb7 f9d=f9c.fb7 fa2=fa1.fb7 fa7=fa6.fb7 fac=fab.fb7",
  "fb9=f90.fb5 10a0-10c5+2d00 10c7=2d27 10cd=2d2d 10fc=10dc 115f-1160= 13f8-13fd+13f0 17b4-17b5=",
  "180b-180f= 1c80=432 1c81=434 1c82=43e 1c83-1c84+441 1c85=442 1c86=44a 1c87=463 1c88=a64b",
  "1c89=1c8a 1c90-1cba+10d0 1cbd-1cbf+10fd 1d2c=61 1d2d=e6 1d2e=62 1d30-1d31+64 1d32=1dd",
  "1d33-1d3a+67 1d3c=6f 1d3d=223 1d3e=70 1d3f=72 1d40-1d41+74 1d42=77 1d43=61 1d44-1d45+250",
  "1d46=1d02 1d47=62 1d48-1d49+64 1d4a=259 1d4b-1d4c+25b 1d4d=67 1d4f=6b 1d50=6d 1d51=14b",
  "1d52=6f 1d53=254 1d54-1d55+1d16 1d56=70 1d57-1d58+74 1d59=1d1d 1d5a=26f 1d5b=76 1d5c=1d25",
  "1d5d-1d5f+3b2 1d60-1d61+3c6 1d62=69 1d63=72 1d64-1d65+75 1d66-1d67+3b2 1d68=3c1 1d69-1d6a+3c6",
  "1d78=43d 1d9b=252 1d9c=63 1d9d=255 1d9e=f0 1d9f=25c 1da0=66 1da1=25f 1da2=261 1da3=265",
  "1da4-1da6+268 1da7=1d7b 1da8=29d 1da9=26d 1daa=1d85 1dab=29f 1dac=271 1dad=270 1dae-1db1+272",
  "1db2=278 1db3-1db4+282 1db5=1ab 1db6-1db7+289 1db8=1d1c 1db9-1dba+28b 1dbb=7a 1dbc-1dbe+290",
  "1dbf=3b8 1e00-1e94/ 1e9a=61.2be 1e9b=1e61 1e9e=df 1ea0-1efe/ 1f08-1f0f+1f00 1f18-1f1d+1f10",
  "1f28-1f2f+1f20 1f38-1f3f+1f30 1f48-1f4d+1f40 1f59=1f51 1f5b=1f53 1f5d=1f55 1f5f=1f57",
  "1f68-1f6f+1f60 1f71=3ac 1f73=3ad 1f75=3ae 1f77=3af 1f79=3cc 1f7b=3cd 1f7d=3ce 1f80=1f00.3b9",
  "1f81=1f01.3b9 1f82=1f02.3b9 1f83=1f03.3b9 1f84=1f04.3b9 1f85=1f05.3b9 1f86=1f06.3b9",
  "1f87=1f07.3b9 1f88=1f00.3b9 1f89=1f01.3b9 1f8a=1f02.3b9 1f8b=1f03.3b9 1f8c=1f04.3b9",
  "1f8d=1f05.3b9 1f8e=1f06.3b9 1f8f=1f07.3b9 1f90=1f20.3b9 1f91=1f21.3b9 1f92=1f22.3b9",
  "1f93=1f23.3b9 1f94=1f24.3b9 1f95=1f25.3b9 1f96=1f26.3b9 1f97=1f27.3b9 1f98=1f20.3b9",
  "1f99=1f21.3b9 1f9a=1f22.3b9 1f9b=1f23.3b9 1f9c=1f24.3b9 1f9d=1f25.3b9 1f9e=1f26.3b9",
  "1f9f=1f27.3b9 1fa0=1f60.3b9 1fa1=1f61.3b9 1fa2=1f62.3b9 1fa3=1f63.3b9 1fa4=1f64.3b9",
  "1fa5=1f65.3b9 1fa6=1f66.3b9 1fa7=1f67.3b9 1fa8=1f60.3b9 1fa9=1f61.3b9 1faa=1f62.3b9",
  "1fab=1f63.3b9 1fac=1f64.3b9 1fad=1f65.3b9 1fae=1f66.3b9 1faf=1f67.3b9 1fb2=1f70.3b9",
  "1fb3=3b1.3b9 1fb4=3ac.3b9 1fb7=1fb6.3b9 1fb8-1fb9+1fb0 1fba=1f70 1fbb=3ac 1fbc=3b1.3b9",
  "1fbd=20.313 1fbe=3b9 1fbf=20.313 1fc0=20.342 1fc1=20.308.342 1fc2=1f74.3b9 1fc3=3b7.3b9",
  "1fc4=3ae.3b9 1fc7=1fc6.3b9 1fc8=1f72 1fc9=3ad 1fca=1f74 1fcb=3ae 1fcc=3b7.3b9 1fcd=20.313.300",
  "1fce=20.313.301 1fcf=20.313.342 1fd3=390 1fd8-1fd9+1fd0 1fda=1f76 1fdb=3af 1fdd=20.314.300",
  "1fde=20.314.301 1fdf=20.314.342 1fe3=3b0 1fe8-1fe9+1fe0 1fea=1f7a 1feb=3cd 1fec=1fe5",
  "1fed=20.308.300 1fee=20.308.301 1fef=60 1ff2=1f7c.3b9 1ff3=3c9.3b9 1ff4=3ce.3b9 1ff7=1ff6.3b9",
  "1ff8=1f78 1ff9=3cc 1ffa=1f7c 1ffb=3ce 1ffc=3c9.3b9 1ffd=20.301 1ffe=20.314 2000-200a=20 200b=",
  "2011=2010 2017=20.333 202f=20 2033=2032.2032 2034=2032.2032.2032 2036=2035.2035",
  "2037=2035.2035.2035 203c=21.21 203e=20.305 2047=3f.3f 2048=3f.21 2049=21.3f",
  "2057=2032.2032.2032.2032 205f=20 2060-2064= 206a-206f= 2070=30 2071=69 2074-2079+34 207a=2b",
  "207b=2212 207c=3d 207d-207e+28 207f=6e 2080-2089+30 208a=2b 208b=2212 208c=3d 208d-208e+28",
  "2090=61 2091=65 2092=6f 2093=78 2094=259 2095=68 2096-2099+6b 209a=70 209b-209c+73 20a8=72.73",
  "2100=61.2f.63 2101=61.2f.73 2102=63 2103=b0.63 2105=63.2f.6f 2106=63.2f.75 2107=25b",
  "2109=b0.66 210a-210b+67 210c-210e=68 210f=127 2110-2111=69 2112-2113=6c 2115=6e 2116=6e.6f",
  "2119-211b+70 211c-211d=72 2120=73.6d 2121=74.65.6c 2122=74.6d 2124=7a 2126=3c9 2128=7a",
  "212a=6b 212b=e5 212c-212d+62 212f-2130=65 2131=66 2132=214e 2133=6d 2134=6f 2135-2138+5d0",
  "2139=69 213b=66.61.78 213c=3c0 213d-213e=3b3 213f=3c0 2140=2211 2145-2146=64 2147=65",
  "2148-2149+69 2150=31.2044.37 2151=31.2044.39 2152=31.2044.31.30 2153=31.2044.33",
  "2154=32.2044.33 2155=31.2044.35 2156=32.2044.35 2157=33.2044.35 2158=34.2044.35",
  "2159=31.2044.36 215a=35.2044.36 215b=31.2044.38 215c=33.2044.38 215d=35.2044.38",
  "215e=37.2044.38 215f=31.2044 2160=69 2161=69.69 2162=69.69.69 2163=69.76 2164=76 2165=76.69",
  "2166=76.69.69 2167=76.69.69.69 2168=69.78 2169=78 216a=78.69 216b=78.69.69 216c=6c",
  "216d-216e+63 216f=6d 2170=69 2171=69.69 2172=69.69.69 2173=69.76 2174=76 2175=76.69",
  "2176=76.69.69 2177=76.69.69.69 2178=69.78 2179=78 217a=78.69 217b=78.69.69 217c=6c",
  "217d-217e+63 217f=6d 2183=2184 2189=30.2044.33 222c=222b.222b 222d=222b.222b.222b",
  "222f=222e.222e 2230=222e.222e.222e 2329-232a+3008 2460-2468+31 2469=31.30 246a=31.31",
  "246b=31.32 246c=31.33 246d=31.34 246e=31.35 246f=31.36 2470=31.37 2471=31.38 2472=31.39",
  "2473=32.30 2474=28.31.29 2475=28.32.29 2476=28.33.29 2477=28.34.29 2478=28.35.29",
  "2479=28.36.29 247a=28.37.29 247b=28.38.29 247c=28.39.29 247d=28.31.30.29 247e=28.31.31.29",
  "247f=28.31.32.29 2480=28.31.33.29 2481=28.31.34.29 2482=28.31.35.29 2483=28.31.36.29",
  "2484=28.31.37.29 2485=28.31.38.29 2486=28.31.39.29 2487=28.32.30.29 249c=28.61.29",
  "249d=28.62.29 249e=28.63.29 249f=28.64.29 24a0=28.65.29 24a1=28.66.29 24a2=28.67.29",
  "24a3=28.68.29 24a4=28.69.29 24a5=28.6a.29 24a6=28.6b.29 24a7=28.6c.29 24a8=28.6d.29",
  "24a9=28.6e.29 24aa=28.6f.29 24ab=28.70.29 24ac=28.71.29 24ad=28.72.29 24ae=28.73.29",
  "24af=28.74.29 24b0=28.75.29 24b1=28.76.29 24b2=28.77.29 24b3=28.78.29 24b4=28.79.29",
  "24b5=28.7a.29 24b6-24cf+61 24d0-24e9+61 24ea=30 2a0c=222b.222b.222b.222b 2a74=3a.3a.3d",
  "2a75=3d.3d 2a76=3d.3d.3d 2adc=2add.338 2c00-2c2f+2c30 2c60=2c61 2c62=26b 2c63=1d7d 2c64=27d",
  "2c67-2c6b/ 2c6d=251 2c6e=271 2c6f=250 2c70=252 2c72=2c73 2c75=2c76 2c7c=6a 2c7d=76",
  "2c7e-2c7f+23f 2c80-2ce2/ 2ceb-2ced/ 2cf2=2cf3 2d6f=2d61 2e9f=6bcd 2ef3=9f9f 2f00=4e00",
  "2f01=4e28 2f02=4e36 2f03=4e3f 2f04=4e59 2f05=4e85 2f06=4e8c 2f07=4ea0 2f08=4eba 2f09=513f",
  "2f0a=5165 2f0b=516b 2f0c=5182 2f0d=5196 2f0e=51ab 2f0f=51e0 2f10=51f5 2f11=5200 2f12=529b",
  "2f13=52f9 2f14=5315 2f15=531a 2f16=5338 2f17=5341 2f18=535c 2f19=5369 2f1a=5382 2f1b=53b6",
  "2f1c=53c8 2f1d=53e3 2f1e=56d7 2f1f=571f 2f20=58eb 2f21=5902 2f22=590a 2f23=5915 2f24=5927",
  "2f25=5973 2f26=5b50 2f27=5b80 2f28=5bf8 2f29=5c0f 2f2a=5c22 2f2b=5c38 2f2c=5c6e 2f2d=5c71",
  "2f2e=5ddb 2f2f=5de5 2f30=5df1 2f31=5dfe 2f32=5e72 2f33=5e7a 2f34=5e7f 2f35=5ef4 2f36=5efe",
  "2f37=5f0b 2f38=5f13 2f39=5f50 2f3a=5f61 2f3b=5f73 2f3c=5fc3 2f3d=6208 2f3e=6236 2f3f=624b",
  "2f40=652f 2f41=6534 2f42=6587 2f43=6597 2f44=65a4 2f45=65b9 2f46=65e0 2f47=65e5 2f48=66f0",
  "2f49=6708 2f4a=6728 2f4b=6b20 2f4c=6b62 2f4d=6b79 2f4e=6bb3 2f4f=6bcb 2f50=6bd4 2f51=6bdb",
  "2f52=6c0f 2f53=6c14 2f54=6c34 2f55=706b 2f56=722a 2f57=7236 2f58=723b 2f59=723f 2f5a=7247",
  "2f5b=7259 2f5c=725b 2f5d=72ac 2f5e=7384 2f5f=7389 2f60=74dc 2f61=74e6 2f62=7518 2f63=751f",
  "2f64=7528 2f65=7530 2f66=758b 2f67=7592 2f68=7676 2f69=767d 2f6a=76ae 2f6b=76bf 2f6c=76ee",
  "2f6d=77db 2f6e=77e2 2f6f=77f3 2f70=793a 2f71=79b8 2f72=79be 2f73=7a74 2f74=7acb 2f75=7af9",
  "2f76=7c73 2f77=7cf8 2f78=7f36 2f79=7f51 2f7a=7f8a 2f7b=7fbd 2f7c=8001 2f7d=800c 2f7e=8012",
  "2f7f=8033 2f80=807f 2f81=8089 2f82=81e3 2f83=81ea 2f84=81f3 2f85=81fc 2f86=820c 2f87=821b",
  "2f88=821f 2f89=826e 2f8a=8272 2f8b=8278 2f8c=864d 2f8d=866b 2f8e=8840 2f8f=884c 2f90=8863",
  "2f91=897e 2f92=898b 2f93=89d2 2f94=8a00 2f95=8c37 2f96=8c46 2f97=8c55 2f98=8c78 2f99=8c9d",
  "2f9a=8d64 2f9b=8d70 2f9c=8db3 2f9d=8eab 2f9e=8eca 2f9f=8f9b 2fa0=8fb0 2fa1=8fb5 2fa2=9091",
  "2fa3=9149 2fa4=91c6 2fa5=91cc 2fa6=91d1 2fa7=9577 2fa8=9580 2fa9=961c 2faa=96b6 2fab=96b9",
  "2fac=96e8 2fad=9751 2fae=975e 2faf=9762 2fb0=9769 2fb1=97cb 2fb2=97ed 2fb3=97f3 2fb4=9801",
  "2fb5=98a8 2fb6=98db 2fb7=98df 2fb8=9996 2fb9=9999 2fba=99ac 2fbb=9aa8 2fbc=9ad8 2fbd=9adf",
  "2fbe=9b25 2fbf=9b2f 2fc0=9b32 2fc1=9b3c 2fc2=9b5a 2fc3=9ce5 2fc4=9e75 2fc5=9e7f 2fc6=9ea5",
  "2fc7=9ebb 2fc8=9ec3 2fc9=9ecd 2fca=9ed1 2fcb=9ef9 2fcc=9efd 2fcd=9f0e 2fce=9f13 2fcf=9f20",
  "2fd0=9f3b 2fd1=9f4a 2fd2=9f52 2fd3=9f8d 2fd4=9f9c 2fd5=9fa0 3000=20 3002=2e 3036=3012",
  "3038=5341 3039-303a+5344 309b=20.3099 309c=20.309a 309f=3088.308a 30ff=30b3.30c8",
  "3131-3132+1100 3133=11aa 3134=1102 3135-3136+11ac 3137-3139+1103 313a-313f+11b0 3140=111a",
  "3141-3143+1106 3144=1121 3145-314e+1109 314f-3163+1161 3164= 3165-3166+1114 3167-3168+11c7",
  "3169=11cc 316a=11ce 316b=11d3 316c=11d7 316d=11d9 316e=111c 316f=11dd 3170=11df",
  "3171-3172+111d 3173=1120 3174-3175+1122 3176=1127 3177=1129 3178-317c+112b 317d=1132",
  "317e=1136 317f=1140 3180=1147 3181=114c 3182-3183+11f1 3184-3186+1157 3187-3188+1184",
  "3189=1188 318a-318b+1191 318c=1194 318d=119e 318e=11a1 3192=4e00 3193=4e8c 3194=4e09",
  "3195=56db 3196=4e0a 3197=4e2d 3198=4e0b 3199=7532 319a=4e59 319b=4e19 319c=4e01 319d=5929",
  "319e=5730 319f=4eba 3200=28.1100.29 3201=28.1102.29 3202=28.1103.29 3203=28.1105.29",
  "3204=28.1106.29 3205=28.1107.29 3206=28.1109.29 3207=28.110b.29 3208=28.110c.29",
  "3209=28.110e.29 320a=28.110f.29 320b=28.1110.29 320c=28.1111.29 320d=28.1112.29",
  "320e=28.ac00.29 320f=28.b098.29 3210=28.b2e4.29 3211=28.b77c.29 3212=28.b9c8.29",
  "3213=28.bc14.29 3214=28.c0ac.29 3215=28.c544.29 3216=28.c790.29 3217=28.cc28.29",
  "3218=28.ce74.29 3219=28.d0c0.29 321a=28.d30c.29 321b=28.d558.29 321c=28.c8fc.29",
  "321d=28.c624.c804.29 321e=28.c624.d6c4.29 3220=28.4e00.29 3221=28.4e8c.29 3222=28.4e09.29",
  "3223=28.56db.29 3224=28.4e94.29 3225=28.516d.29 3226=28.4e03.29 3227=28.516b.29",
  "3228=28.4e5d.29 3229=28.5341.29 322a=28.6708.29 322b=28.706b.29 322c=28.6c34.29",
  "322d=28.6728.29 322e=28.91d1.29 322f=28.571f.29 3230=28.65e5.29 3231=28.682a.29",
  "3232=28.6709.29 3233=28.793e.29 3234=28.540d.29 3235=28.7279.29 3236=28.8ca1.29",
  "3237=28.795d.29 3238=28.52b4.29 3239=28.4ee3.29 323a=28.547c.29 323b=28.5b66.29",
  "323c=28.76e3.29 323d=28.4f01.29 323e=28.8cc7.29 323f=28.5354.29 3240=28.796d.29",
  "3241=28.4f11.29 3242=28.81ea.29 3243=28.81f3.29 3244=554f 3245=5e7c 3246=6587 3247=7b8f",
  "3250=70.74.65 3251=32.31 3252=32.32 3253=32.33 3254=32.34 3255=32.35 3256=32.36 3257=32.37",
  "3258=32.38 3259=32.39 325a=33.30 325b=33.31 325c=33.32 325d=33.33 325e=33.34 325f=33.35",
  "3260=1100 3261-3262+1102 3263-3265+1105 3266=1109 3267-3268+110b 3269-326d+110e 326e=ac00",
  "326f=b098 3270=b2e4 3271=b77c 3272=b9c8 3273=bc14 3274=c0ac 3275=c544 3276=c790 3277=cc28",
  "3278=ce74 3279=d0c0 327a=d30c 327b=d558 327c=cc38.ace0 327d=c8fc.c758 327e=c6b0 3280=4e00",
  "3281=4e8c 3282=4e09 3283=56db 3284=4e94 3285=516d 3286=4e03 3287=516b 3288=4e5d 3289=5341",
  "328a=6708 328b=706b 328c=6c34 328d=6728 328e=91d1 328f=571f 3290=65e5 3291=682a 3292=6709",
  "3293=793e 3294=540d 3295=7279 3296=8ca1 3297=795d 3298=52b4 3299=79d8 329a=7537 329b=5973",
  "329c=9069 329d=512a 329e=5370 329f=6ce8 32a0=9805 32a1=4f11 32a2=5199 32a3=6b63 32a4=4e0a",
  "32a5=4e2d 32a6=4e0b 32a7=5de6 32a8=53f3 32a9=533b 32aa=5b97 32ab=5b66 32ac=76e3 32ad=4f01",
  "32ae=8cc7 32af=5354 32b0=591c 32b1=33.36 32b2=33.37 32b3=33.38 32b4=33.39 32b5=34.30",
  "32b6=34.31 32b7=34.32 32b8=34.33 32b9=34.34 32ba=34.35 32bb=34.36 32bc=34.37 32bd=34.38",
  "32be=34.39 32bf=35.30 32c0=31.6708 32c1=32.6708 32c2=33.6708 32c3=34.6708 32c4=35.6708",
  "32c5=36.6708 32c6=37.6708 32c7=38.6708 32c8=39.6708 32c9=31.30.6708 32ca=31.31.6708",
  "32cb=31.32.6708 32cc=68.67 32cd=65.72.67 32ce=65.76 32cf=6c.74.64 32d0=30a2 32d1=30a4",
  "32d2=30a6 32d3=30a8 32d4-32d5+30aa 32d6=30ad 32d7=30af 32d8=30b1 32d9=30b3 32da=30b5",
  "32db=30b7 32dc=30b9 32dd=30bb 32de=30bd 32df=30bf 32e0=30c1 32e1=30c4 32e2=30c6 32e3=30c8",
  "32e4-32e9+30ca 32ea=30d2 32eb=30d5 32ec=30d8 32ed=30db 32ee-32f2+30de 32f3=30e4 32f4=30e6",
  "32f5-32fa+30e8 32fb-32fe+30ef 32ff=4ee4.548c 3300=30a2.30d1.30fc.30c8",
  "3301=30a2.30eb.30d5.30a1 3302=30a2.30f3.30da.30a2 3303=30a2.30fc.30eb",
  "3304=30a4.30cb.30f3.30b0 3305=30a4.30f3.30c1 3306=30a6.30a9.30f3",
  "3307=30a8.30b9.30af.30fc.30c9 3308=30a8.30fc.30ab.30fc 3309=30aa.30f3.30b9",
  "330a=30aa.30fc.30e0 330b=30ab.30a4.30ea 330c=30ab.30e9.30c3.30c8 330d=30ab.30ed.30ea.30fc",
  "330e=30ac.30ed.30f3 330f=30ac.30f3.30de 3310=30ae.30ac 3311=30ae.30cb.30fc",
  "3312=30ad.30e5.30ea.30fc 3313=30ae.30eb.30c0.30fc 3314=30ad.30ed",
  "3315=30ad.30ed.30b0.30e9.30e0 3316=30ad.30ed.30e1.30fc.30c8.30eb",
  "3317=30ad.30ed.30ef.30c3.30c8 3318=30b0.30e9.30e0 3319=30b0.30e9.30e0.30c8.30f3",
  "331a=30af.30eb.30bc.30a4.30ed 331b=30af.30ed.30fc.30cd 331c=30b1.30fc.30b9",
  "331d=30b3.30eb.30ca 331e=30b3.30fc.30dd 331f=30b5.30a4.30af.30eb",
  "3320=30b5.30f3.30c1.30fc.30e0 3321=30b7.30ea.30f3.30b0 3322=30bb.30f3.30c1",
  "3323=30bb.30f3.30c8 3324=30c0.30fc.30b9 3325=30c7.30b7 3326=30c9.30eb 3327=30c8.30f3",
  "3328=30ca.30ce 3329=30ce.30c3.30c8 332a=30cf.30a4.30c4 332b=30d1.30fc.30bb.30f3.30c8",
  "332c=30d1.30fc.30c4 332d=30d0.30fc.30ec.30eb 332e=30d4.30a2.30b9.30c8.30eb",
  "332f=30d4.30af.30eb 3330=30d4.30b3 3331=30d3.30eb 3332=30d5.30a1.30e9.30c3.30c9",
  "3333=30d5.30a3.30fc.30c8 3334=30d6.30c3.30b7.30a7.30eb 3335=30d5.30e9.30f3",
  "3336=30d8.30af.30bf.30fc.30eb 3337=30da.30bd 3338=30da.30cb.30d2 3339=30d8.30eb.30c4",
  "333a=30da.30f3.30b9 333b=30da.30fc.30b8 333c=30d9.30fc.30bf 333d=30dd.30a4.30f3.30c8",
  "333e=30dc.30eb.30c8 333f=30db.30f3 3340=30dd.30f3.30c9 3341=30db.30fc.30eb",
  "3342=30db.30fc.30f3 3343=30de.30a4.30af.30ed 3344=30de.30a4.30eb 3345=30de.30c3.30cf",
  "3346=30de.30eb.30af 3347=30de.30f3.30b7.30e7.30f3 3348=30df.30af.30ed.30f3 3349=30df.30ea",
  "334a=30df.30ea.30d0.30fc.30eb 334b=30e1.30ac 334c=30e1.30ac.30c8.30f3",
  "334d=30e1.30fc.30c8.30eb 334e=30e4.30fc.30c9 334f=30e4.30fc.30eb 3350=30e6.30a2.30f3",
  "3351=30ea.30c3.30c8.30eb 3352=30ea.30e9 3353=30eb.30d4.30fc 3354=30eb.30fc.30d6.30eb",
  "3355=30ec.30e0 3356=30ec.30f3.30c8.30b2.30f3 3357=30ef.30c3.30c8 3358=30.70b9 3359=31.70b9",
  "335a=32.70b9 335b=33.70b9 335c=34.70b9 335d=35.70b9 335e=36.70b9 335f=37.70b9 3360=38.70b9",
  "3361=39.70b9 3362=31.30.70b9 3363=31.31.70b9 3364=31.32.70b9 3365=31.33.70b9 3366=31.34.70b9",
  "3367=31.35.70b9 3368=31.36.70b9 3369=31.37.70b9 336a=31.38.70b9 336b=31.39.70b9",
  "336c=32.30.70b9 336d=32.31.70b9 336e=32.32.70b9 336f=32.33.70b9 3370=32.34.70b9 3371=68.70.61",
  "3372=64.61 3373=61.75 3374=62.61.72 3375=6f.76 3376=70.63 3377=64.6d 3378=64.6d.32",
  "3379=64.6d.33 337a=69.75 337b=5e73.6210 337c=662d.548c 337d=5927.6b63 337e=660e.6cbb",
  "337f=682a.5f0f.4f1a.793e 3380=70.61 3381=6e.61 3382=3bc.61 3383=6d.61 3384=6b.61 3385=6b.62",
  "3386=6d.62 3387=67.62 3388=63.61.6c 3389=6b.63.61.6c 338a=70.66 338b=6e.66 338c=3bc.66",
  "338d=3bc.67 338e=6d.67 338f=6b.67 3390=68.7a 3391=6b.68.7a 3392=6d.68.7a 3393=67.68.7a",
  "3394=74.68.7a 3395=3bc.6c 3396=6d.6c 3397=64.6c 3398=6b.6c 3399=66.6d 339a=6e.6d 339b=3bc.6d",
  "339c=6d.6d 339d=63.6d 339e=6b.6d 339f=6d.6d.32 33a0=63.6d.32 33a1=6d.32 33a2=6b.6d.32",
  "33a3=6d.6d.33 33a4=63.6d.33 33a5=6d.33 33a6=6b.6d.33 33a7=6d.2215.73 33a8=6d.2215.73.32",
  "33a9=70.61 33aa=6b.70.61 33ab=6d.70.61 33ac=67.70.61 33ad=72.61.64 33ae=72.61.64.2215.73",
  "33af=72.61.64.2215.73.32 33b0=70.73 33b1=6e.73 33b2=3bc.73 33b3=6d.73 33b4=70.76 33b5=6e.76",
  "33b6=3bc.76 33b7=6d.76 33b8=6b.76 33b9=6d.76 33ba=70.77 33bb=6e.77 33bc=3bc.77 33bd=6d.77",
  "33be=6b.77 33bf=6d.77 33c0=6b.3c9 33c1=6d.3c9 33c3=62.71 33c4=63.63 33c5=63.64",
  "33c6=63.2215.6b.67 33c8=64.62 33c9=67.79 33ca=68.61 33cb=68.70 33cc=69.6e 33cd=6b.6b",
  "33ce=6b.6d 33cf=6b.74 33d0=6c.6d 33d1=6c.6e 33d2=6c.6f.67 33d3=6c.78 33d4=6d.62 33d5=6d.69.6c",
  "33d6=6d.6f.6c 33d7=70.68 33d9=70.70.6d 33da=70.72 33db=73.72 33dc=73.76 33dd=77.62",
  "33de=76.2215.6d 33df=61.2215.6d 33e0=31.65e5 33e1=32.65e5 33e2=33.65e5 33e3=34.65e5",
  "33e4=35.65e5 33e5=36.65e5 33e6=37.65e5 33e7=38.65e5 33e8=39.65e5 33e9=31.30.65e5",
  "33ea=31.31.65e5 33eb=31.32.65e5 33ec=31.33.65e5 33ed=31.34.65e5 33ee=31.35.65e5",
  "33ef=31.36.65e5 33f0=31.37.65e5 33f1=31.38.65e5 33f2=31.39.65e5 33f3=32.30.65e5",
  "33f4=32.31.65e5 33f5=32.32.65e5 33f6=32.33.65e5 33f7=32.34.65e5 33f8=32.35.65e5",
  "33f9=32.36.65e5 33fa=32.37.65e5 33fb=32.38.65e5 33fc=32.39.65e5 33fd=33.30.65e5",
  "33fe=33.31.65e5 33ff=67.61.6c a640-a66c/ a680-a69a/ a69c=44a a69d=44c a722-a72e/ a732-a76e/",
  "a770=a76f a779-a77b/ a77d=1d79 a77e-a786/ a78b=a78c a78d=265 a790-a792/ a796-a7a8/ a7aa=266",
  "a7ab=25c a7ac=261 a7ad=26c a7ae=26a a7b0=29e a7b1=287 a7b2=29d a7b3=ab53 a7b4-a7c2/ a7c4=a794",
  "a7c5=282 a7c6=1d8e a7c7-a7c9/ a7cb=264 a7cc-a7da/ a7dc=19b a7f1=73 a7f2=63 a7f3=66 a7f4=71",
  "a7f5=a7f6 a7f8=127 a7f9=153 ab5c=a727 ab5d=ab37 ab5e=26b ab5f=ab52 ab69=28d ab70-abbf+13a0"]

end FeedReader.Url
