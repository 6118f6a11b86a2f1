import Bindery.Text.Ranges

/-!
# Composed and decomposed characters

The data behind `Bindery.Text.compose`: the characters that others are taken apart to, and those
that are never put together again.
-/

namespace Bindery.Text

/-- Code points of characters with the one or two that they are taken apart to, all in hexadecimal
digits. -/
def decompositionEntries : String := "
  00c0=0041+0300 00c1=0041+0301 00c2=0041+0302 00c3=0041+0303 00c4=0041+0308 00c5=0041+030a
  00c7=0043+0327 00c8=0045+0300 00c9=0045+0301 00ca=0045+0302 00cb=0045+0308 00cc=0049+0300
  00cd=0049+0301 00ce=0049+0302 00cf=0049+0308 00d1=004e+0303 00d2=004f+0300 00d3=004f+0301
  00d4=004f+0302 00d5=004f+0303 00d6=004f+0308 00d9=0055+0300 00da=0055+0301 00db=0055+0302
  00dc=0055+0308 00dd=0059+0301 00e0=0061+0300 00e1=0061+0301 00e2=0061+0302 00e3=0061+0303
  00e4=0061+0308 00e5=0061+030a 00e7=0063+0327 00e8=0065+0300 00e9=0065+0301 00ea=0065+0302
  00eb=0065+0308 00ec=0069+0300 00ed=0069+0301 00ee=0069+0302 00ef=0069+0308 00f1=006e+0303
  00f2=006f+0300 00f3=006f+0301 00f4=006f+0302 00f5=006f+0303 00f6=006f+0308 00f9=0075+0300
  00fa=0075+0301 00fb=0075+0302 00fc=0075+0308 00fd=0079+0301 00ff=0079+0308 0100=0041+0304
  0101=0061+0304 0102=0041+0306 0103=0061+0306 0104=0041+0328 0105=0061+0328 0106=0043+0301
  0107=0063+0301 0108=0043+0302 0109=0063+0302 010a=0043+0307 010b=0063+0307 010c=0043+030c
  010d=0063+030c 010e=0044+030c 010f=0064+030c 0112=0045+0304 0113=0065+0304 0114=0045+0306
  0115=0065+0306 0116=0045+0307 0117=0065+0307 0118=0045+0328 0119=0065+0328 011a=0045+030c
  011b=0065+030c 011c=0047+0302 011d=0067+0302 011e=0047+0306 011f=0067+0306 0120=0047+0307
  0121=0067+0307 0122=0047+0327 0123=0067+0327 0124=0048+0302 0125=0068+0302 0128=0049+0303
  0129=0069+0303 012a=0049+0304 012b=0069+0304 012c=0049+0306 012d=0069+0306 012e=0049+0328
  012f=0069+0328 0130=0049+0307 0134=004a+0302 0135=006a+0302 0136=004b+0327 0137=006b+0327
  0139=004c+0301 013a=006c+0301 013b=004c+0327 013c=006c+0327 013d=004c+030c 013e=006c+030c
  0143=004e+0301 0144=006e+0301 0145=004e+0327 0146=006e+0327 0147=004e+030c 0148=006e+030c
  014c=004f+0304 014d=006f+0304 014e=004f+0306 014f=006f+0306 0150=004f+030b 0151=006f+030b
  0154=0052+0301 0155=0072+0301 0156=0052+0327 0157=0072+0327 0158=0052+030c 0159=0072+030c
  015a=0053+0301 015b=0073+0301 015c=0053+0302 015d=0073+0302 015e=0053+0327 015f=0073+0327
  0160=0053+030c 0161=0073+030c 0162=0054+0327 0163=0074+0327 0164=0054+030c 0165=0074+030c
  0168=0055+0303 0169=0075+0303 016a=0055+0304 016b=0075+0304 016c=0055+0306 016d=0075+0306
  016e=0055+030a 016f=0075+030a 0170=0055+030b 0171=0075+030b 0172=0055+0328 0173=0075+0328
  0174=0057+0302 0175=0077+0302 0176=0059+0302 0177=0079+0302 0178=0059+0308 0179=005a+0301
  017a=007a+0301 017b=005a+0307 017c=007a+0307 017d=005a+030c 017e=007a+030c 01a0=004f+031b
  01a1=006f+031b 01af=0055+031b 01b0=0075+031b 01cd=0041+030c 01ce=0061+030c 01cf=0049+030c
  01d0=0069+030c 01d1=004f+030c 01d2=006f+030c 01d3=0055+030c 01d4=0075+030c 01d5=00dc+0304
  01d6=00fc+0304 01d7=00dc+0301 01d8=00fc+0301 01d9=00dc+030c 01da=00fc+030c 01db=00dc+0300
  01dc=00fc+0300 01de=00c4+0304 01df=00e4+0304 01e0=0226+0304 01e1=0227+0304 01e2=00c6+0304
  01e3=00e6+0304 01e6=0047+030c 01e7=0067+030c 01e8=004b+030c 01e9=006b+030c 01ea=004f+0328
  01eb=006f+0328 01ec=01ea+0304 01ed=01eb+0304 01ee=01b7+030c 01ef=0292+030c 01f0=006a+030c
  01f4=0047+0301 01f5=0067+0301 01f8=004e+0300 01f9=006e+0300 01fa=00c5+0301 01fb=00e5+0301
  01fc=00c6+0301 01fd=00e6+0301 01fe=00d8+0301 01ff=00f8+0301 0200=0041+030f 0201=0061+030f
  0202=0041+0311 0203=0061+0311 0204=0045+030f 0205=0065+030f 0206=0045+0311 0207=0065+0311
  0208=0049+030f 0209=0069+030f 020a=0049+0311 020b=0069+0311 020c=004f+030f 020d=006f+030f
  020e=004f+0311 020f=006f+0311 0210=0052+030f 0211=0072+030f 0212=0052+0311 0213=0072+0311
  0214=0055+030f 0215=0075+030f 0216=0055+0311 0217=0075+0311 0218=0053+0326 0219=0073+0326
  021a=0054+0326 021b=0074+0326 021e=0048+030c 021f=0068+030c 0226=0041+0307 0227=0061+0307
  0228=0045+0327 0229=0065+0327 022a=00d6+0304 022b=00f6+0304 022c=00d5+0304 022d=00f5+0304
  022e=004f+0307 022f=006f+0307 0230=022e+0304 0231=022f+0304 0232=0059+0304 0233=0079+0304
  0340=0300 0341=0301 0343=0313 0344=0308+0301 0374=02b9 037e=003b 0385=00a8+0301 0386=0391+0301
  0387=00b7 0388=0395+0301 0389=0397+0301 038a=0399+0301 038c=039f+0301 038e=03a5+0301
  038f=03a9+0301 0390=03ca+0301 03aa=0399+0308 03ab=03a5+0308 03ac=03b1+0301 03ad=03b5+0301
  03ae=03b7+0301 03af=03b9+0301 03b0=03cb+0301 03ca=03b9+0308 03cb=03c5+0308 03cc=03bf+0301
  03cd=03c5+0301 03ce=03c9+0301 03d3=03d2+0301 03d4=03d2+0308 0400=0415+0300 0401=0415+0308
  0403=0413+0301 0407=0406+0308 040c=041a+0301 040d=0418+0300 040e=0423+0306 0419=0418+0306
  0439=0438+0306 0450=0435+0300 0451=0435+0308 0453=0433+0301 0457=0456+0308 045c=043a+0301
  045d=0438+0300 045e=0443+0306 0476=0474+030f 0477=0475+030f 04c1=0416+0306 04c2=0436+0306
  04d0=0410+0306 04d1=0430+0306 04d2=0410+0308 04d3=0430+0308 04d6=0415+0306 04d7=0435+0306
  04da=04d8+0308 04db=04d9+0308 04dc=0416+0308 04dd=0436+0308 04de=0417+0308 04df=0437+0308
  04e2=0418+0304 04e3=0438+0304 04e4=0418+0308 04e5=0438+0308 04e6=041e+0308 04e7=043e+0308
  04ea=04e8+0308 04eb=04e9+0308 04ec=042d+0308 04ed=044d+0308 04ee=0423+0304 04ef=0443+0304
  04f0=0423+0308 04f1=0443+0308 04f2=0423+030b 04f3=0443+030b 04f4=0427+0308 04f5=0447+0308
  04f8=042b+0308 04f9=044b+0308 0622=0627+0653 0623=0627+0654 0624=0648+0654 0625=0627+0655
  0626=064a+0654 06c0=06d5+0654 06c2=06c1+0654 06d3=06d2+0654 0929=0928+093c 0931=0930+093c
  0934=0933+093c 0958=0915+093c 0959=0916+093c 095a=0917+093c 095b=091c+093c 095c=0921+093c
  095d=0922+093c 095e=092b+093c 095f=092f+093c 09cb=09c7+09be 09cc=09c7+09d7 09dc=09a1+09bc
  09dd=09a2+09bc 09df=09af+09bc 0a33=0a32+0a3c 0a36=0a38+0a3c 0a59=0a16+0a3c 0a5a=0a17+0a3c
  0a5b=0a1c+0a3c 0a5e=0a2b+0a3c 0b48=0b47+0b56 0b4b=0b47+0b3e 0b4c=0b47+0b57 0b5c=0b21+0b3c
  0b5d=0b22+0b3c 0b94=0b92+0bd7 0bca=0bc6+0bbe 0bcb=0bc7+0bbe 0bcc=0bc6+0bd7 0c48=0c46+0c56
  0cc0=0cbf+0cd5 0cc7=0cc6+0cd5 0cc8=0cc6+0cd6 0cca=0cc6+0cc2 0ccb=0cca+0cd5 0d4a=0d46+0d3e
  0d4b=0d47+0d3e 0d4c=0d46+0d57 0dda=0dd9+0dca 0ddc=0dd9+0dcf 0ddd=0ddc+0dca 0dde=0dd9+0ddf
  0f43=0f42+0fb7 0f4d=0f4c+0fb7 0f52=0f51+0fb7 0f57=0f56+0fb7 0f5c=0f5b+0fb7 0f69=0f40+0fb5
  0f73=0f71+0f72 0f75=0f71+0f74 0f76=0fb2+0f80 0f78=0fb3+0f80 0f81=0f71+0f80 0f93=0f92+0fb7
  0f9d=0f9c+0fb7 0fa2=0fa1+0fb7 0fa7=0fa6+0fb7 0fac=0fab+0fb7 0fb9=0f90+0fb5 1026=1025+102e
  1b06=1b05+1b35 1b08=1b07+1b35 1b0a=1b09+1b35 1b0c=1b0b+1b35 1b0e=1b0d+1b35 1b12=1b11+1b35
  1b3b=1b3a+1b35 1b3d=1b3c+1b35 1b40=1b3e+1b35 1b41=1b3f+1b35 1b43=1b42+1b35 1e00=0041+0325
  1e01=0061+0325 1e02=0042+0307 1e03=0062+0307 1e04=0042+0323 1e05=0062+0323 1e06=0042+0331
  1e07=0062+0331 1e08=00c7+0301 1e09=00e7+0301 1e0a=0044+0307 1e0b=0064+0307 1e0c=0044+0323
  1e0d=0064+0323 1e0e=0044+0331 1e0f=0064+0331 1e10=0044+0327 1e11=0064+0327 1e12=0044+032d
  1e13=0064+032d 1e14=0112+0300 1e15=0113+0300 1e16=0112+0301 1e17=0113+0301 1e18=0045+032d
  1e19=0065+032d 1e1a=0045+0330 1e1b=0065+0330 1e1c=0228+0306 1e1d=0229+0306 1e1e=0046+0307
  1e1f=0066+0307 1e20=0047+0304 1e21=0067+0304 1e22=0048+0307 1e23=0068+0307 1e24=0048+0323
  1e25=0068+0323 1e26=0048+0308 1e27=0068+0308 1e28=0048+0327 1e29=0068+0327 1e2a=0048+032e
  1e2b=0068+032e 1e2c=0049+0330 1e2d=0069+0330 1e2e=00cf+0301 1e2f=00ef+0301 1e30=004b+0301
  1e31=006b+0301 1e32=004b+0323 1e33=006b+0323 1e34=004b+0331 1e35=006b+0331 1e36=004c+0323
  1e37=006c+0323 1e38=1e36+0304 1e39=1e37+0304 1e3a=004c+0331 1e3b=006c+0331 1e3c=004c+032d
  1e3d=006c+032d 1e3e=004d+0301 1e3f=006d+0301 1e40=004d+0307 1e41=006d+0307 1e42=004d+0323
  1e43=006d+0323 1e44=004e+0307 1e45=006e+0307 1e46=004e+0323 1e47=006e+0323 1e48=004e+0331
  1e49=006e+0331 1e4a=004e+032d 1e4b=006e+032d 1e4c=00d5+0301 1e4d=00f5+0301 1e4e=00d5+0308
  1e4f=00f5+0308 1e50=014c+0300 1e51=014d+0300 1e52=014c+0301 1e53=014d+0301 1e54=0050+0301
  1e55=0070+0301 1e56=0050+0307 1e57=0070+0307 1e58=0052+0307 1e59=0072+0307 1e5a=0052+0323
  1e5b=0072+0323 1e5c=1e5a+0304 1e5d=1e5b+0304 1e5e=0052+0331 1e5f=0072+0331 1e60=0053+0307
  1e61=0073+0307 1e62=0053+0323 1e63=0073+0323 1e64=015a+0307 1e65=015b+0307 1e66=0160+0307
  1e67=0161+0307 1e68=1e62+0307 1e69=1e63+0307 1e6a=0054+0307 1e6b=0074+0307 1e6c=0054+0323
  1e6d=0074+0323 1e6e=0054+0331 1e6f=0074+0331 1e70=0054+032d 1e71=0074+032d 1e72=0055+0324
  1e73=0075+0324 1e74=0055+0330 1e75=0075+0330 1e76=0055+032d 1e77=0075+032d 1e78=0168+0301
  1e79=0169+0301 1e7a=016a+0308 1e7b=016b+0308 1e7c=0056+0303 1e7d=0076+0303 1e7e=0056+0323
  1e7f=0076+0323 1e80=0057+0300 1e81=0077+0300 1e82=0057+0301 1e83=0077+0301 1e84=0057+0308
  1e85=0077+0308 1e86=0057+0307 1e87=0077+0307 1e88=0057+0323 1e89=0077+0323 1e8a=0058+0307
  1e8b=0078+0307 1e8c=0058+0308 1e8d=0078+0308 1e8e=0059+0307 1e8f=0079+0307 1e90=005a+0302
  1e91=007a+0302 1e92=005a+0323 1e93=007a+0323 1e94=005a+0331 1e95=007a+0331 1e96=0068+0331
  1e97=0074+0308 1e98=0077+030a 1e99=0079+030a 1e9b=017f+0307 1ea0=0041+0323 1ea1=0061+0323
  1ea2=0041+0309 1ea3=0061+0309 1ea4=00c2+0301 1ea5=00e2+0301 1ea6=00c2+0300 1ea7=00e2+0300
  1ea8=00c2+0309 1ea9=00e2+0309 1eaa=00c2+0303 1eab=00e2+0303 1eac=1ea0+0302 1ead=1ea1+0302
  1eae=0102+0301 1eaf=0103+0301 1eb0=0102+0300 1eb1=0103+0300 1eb2=0102+0309 1eb3=0103+0309
  1eb4=0102+0303 1eb5=0103+0303 1eb6=1ea0+0306 1eb7=1ea1+0306 1eb8=0045+0323 1eb9=0065+0323
  1eba=0045+0309 1ebb=0065+0309 1ebc=0045+0303 1ebd=0065+0303 1ebe=00ca+0301 1ebf=00ea+0301
  1ec0=00ca+0300 1ec1=00ea+0300 1ec2=00ca+0309 1ec3=00ea+0309 1ec4=00ca+0303 1ec5=00ea+0303
  1ec6=1eb8+0302 1ec7=1eb9+0302 1ec8=0049+0309 1ec9=0069+0309 1eca=0049+0323 1ecb=0069+0323
  1ecc=004f+0323 1ecd=006f+0323 1ece=004f+0309 1ecf=006f+0309 1ed0=00d4+0301 1ed1=00f4+0301
  1ed2=00d4+0300 1ed3=00f4+0300 1ed4=00d4+0309 1ed5=00f4+0309 1ed6=00d4+0303 1ed7=00f4+0303
  1ed8=1ecc+0302 1ed9=1ecd+0302 1eda=01a0+0301 1edb=01a1+0301 1edc=01a0+0300 1edd=01a1+0300
  1ede=01a0+0309 1edf=01a1+0309 1ee0=01a0+0303 1ee1=01a1+0303 1ee2=01a0+0323 1ee3=01a1+0323
  1ee4=0055+0323 1ee5=0075+0323 1ee6=0055+0309 1ee7=0075+0309 1ee8=01af+0301 1ee9=01b0+0301
  1eea=01af+0300 1eeb=01b0+0300 1eec=01af+0309 1eed=01b0+0309 1eee=01af+0303 1eef=01b0+0303
  1ef0=01af+0323 1ef1=01b0+0323 1ef2=0059+0300 1ef3=0079+0300 1ef4=0059+0323 1ef5=0079+0323
  1ef6=0059+0309 1ef7=0079+0309 1ef8=0059+0303 1ef9=0079+0303 1f00=03b1+0313 1f01=03b1+0314
  1f02=1f00+0300 1f03=1f01+0300 1f04=1f00+0301 1f05=1f01+0301 1f06=1f00+0342 1f07=1f01+0342
  1f08=0391+0313 1f09=0391+0314 1f0a=1f08+0300 1f0b=1f09+0300 1f0c=1f08+0301 1f0d=1f09+0301
  1f0e=1f08+0342 1f0f=1f09+0342 1f10=03b5+0313 1f11=03b5+0314 1f12=1f10+0300 1f13=1f11+0300
  1f14=1f10+0301 1f15=1f11+0301 1f18=0395+0313 1f19=0395+0314 1f1a=1f18+0300 1f1b=1f19+0300
  1f1c=1f18+0301 1f1d=1f19+0301 1f20=03b7+0313 1f21=03b7+0314 1f22=1f20+0300 1f23=1f21+0300
  1f24=1f20+0301 1f25=1f21+0301 1f26=1f20+0342 1f27=1f21+0342 1f28=0397+0313 1f29=0397+0314
  1f2a=1f28+0300 1f2b=1f29+0300 1f2c=1f28+0301 1f2d=1f29+0301 1f2e=1f28+0342 1f2f=1f29+0342
  1f30=03b9+0313 1f31=03b9+0314 1f32=1f30+0300 1f33=1f31+0300 1f34=1f30+0301 1f35=1f31+0301
  1f36=1f30+0342 1f37=1f31+0342 1f38=0399+0313 1f39=0399+0314 1f3a=1f38+0300 1f3b=1f39+0300
  1f3c=1f38+0301 1f3d=1f39+0301 1f3e=1f38+0342 1f3f=1f39+0342 1f40=03bf+0313 1f41=03bf+0314
  1f42=1f40+0300 1f43=1f41+0300 1f44=1f40+0301 1f45=1f41+0301 1f48=039f+0313 1f49=039f+0314
  1f4a=1f48+0300 1f4b=1f49+0300 1f4c=1f48+0301 1f4d=1f49+0301 1f50=03c5+0313 1f51=03c5+0314
  1f52=1f50+0300 1f53=1f51+0300 1f54=1f50+0301 1f55=1f51+0301 1f56=1f50+0342 1f57=1f51+0342
  1f59=03a5+0314 1f5b=1f59+0300 1f5d=1f59+0301 1f5f=1f59+0342 1f60=03c9+0313 1f61=03c9+0314
  1f62=1f60+0300 1f63=1f61+0300 1f64=1f60+0301 1f65=1f61+0301 1f66=1f60+0342 1f67=1f61+0342
  1f68=03a9+0313 1f69=03a9+0314 1f6a=1f68+0300 1f6b=1f69+0300 1f6c=1f68+0301 1f6d=1f69+0301
  1f6e=1f68+0342 1f6f=1f69+0342 1f70=03b1+0300 1f71=03ac 1f72=03b5+0300 1f73=03ad 1f74=03b7+0300
  1f75=03ae 1f76=03b9+0300 1f77=03af 1f78=03bf+0300 1f79=03cc 1f7a=03c5+0300 1f7b=03cd
  1f7c=03c9+0300 1f7d=03ce 1f80=1f00+0345 1f81=1f01+0345 1f82=1f02+0345 1f83=1f03+0345
  1f84=1f04+0345 1f85=1f05+0345 1f86=1f06+0345 1f87=1f07+0345 1f88=1f08+0345 1f89=1f09+0345
  1f8a=1f0a+0345 1f8b=1f0b+0345 1f8c=1f0c+0345 1f8d=1f0d+0345 1f8e=1f0e+0345 1f8f=1f0f+0345
  1f90=1f20+0345 1f91=1f21+0345 1f92=1f22+0345 1f93=1f23+0345 1f94=1f24+0345 1f95=1f25+0345
  1f96=1f26+0345 1f97=1f27+0345 1f98=1f28+0345 1f99=1f29+0345 1f9a=1f2a+0345 1f9b=1f2b+0345
  1f9c=1f2c+0345 1f9d=1f2d+0345 1f9e=1f2e+0345 1f9f=1f2f+0345 1fa0=1f60+0345 1fa1=1f61+0345
  1fa2=1f62+0345 1fa3=1f63+0345 1fa4=1f64+0345 1fa5=1f65+0345 1fa6=1f66+0345 1fa7=1f67+0345
  1fa8=1f68+0345 1fa9=1f69+0345 1faa=1f6a+0345 1fab=1f6b+0345 1fac=1f6c+0345 1fad=1f6d+0345
  1fae=1f6e+0345 1faf=1f6f+0345 1fb0=03b1+0306 1fb1=03b1+0304 1fb2=1f70+0345 1fb3=03b1+0345
  1fb4=03ac+0345 1fb6=03b1+0342 1fb7=1fb6+0345 1fb8=0391+0306 1fb9=0391+0304 1fba=0391+0300
  1fbb=0386 1fbc=0391+0345 1fbe=03b9 1fc1=00a8+0342 1fc2=1f74+0345 1fc3=03b7+0345 1fc4=03ae+0345
  1fc6=03b7+0342 1fc7=1fc6+0345 1fc8=0395+0300 1fc9=0388 1fca=0397+0300 1fcb=0389 1fcc=0397+0345
  1fcd=1fbf+0300 1fce=1fbf+0301 1fcf=1fbf+0342 1fd0=03b9+0306 1fd1=03b9+0304 1fd2=03ca+0300
  1fd3=0390 1fd6=03b9+0342 1fd7=03ca+0342 1fd8=0399+0306 1fd9=0399+0304 1fda=0399+0300 1fdb=038a
  1fdd=1ffe+0300 1fde=1ffe+0301 1fdf=1ffe+0342 1fe0=03c5+0306 1fe1=03c5+0304 1fe2=03cb+0300
  1fe3=03b0 1fe4=03c1+0313 1fe5=03c1+0314 1fe6=03c5+0342 1fe7=03cb+0342 1fe8=03a5+0306
  1fe9=03a5+0304 1fea=03a5+0300 1feb=038e 1fec=03a1+0314 1fed=00a8+0300 1fee=0385 1fef=0060
  1ff2=1f7c+0345 1ff3=03c9+0345 1ff4=03ce+0345 1ff6=03c9+0342 1ff7=1ff6+0345 1ff8=039f+0300
  1ff9=038c 1ffa=03a9+0300 1ffb=038f 1ffc=03a9+0345 1ffd=00b4 2000=2002 2001=2003 2126=03a9
  212a=004b 212b=00c5 219a=2190+0338 219b=2192+0338 21ae=2194+0338 21cd=21d0+0338 21ce=21d4+0338
  21cf=21d2+0338 2204=2203+0338 2209=2208+0338 220c=220b+0338 2224=2223+0338 2226=2225+0338
  2241=223c+0338 2244=2243+0338 2247=2245+0338 2249=2248+0338 2260=003d+0338 2262=2261+0338
  226d=224d+0338 226e=003c+0338 226f=003e+0338 2270=2264+0338 2271=2265+0338 2274=2272+0338
  2275=2273+0338 2278=2276+0338 2279=2277+0338 2280=227a+0338 2281=227b+0338 2284=2282+0338
  2285=2283+0338 2288=2286+0338 2289=2287+0338 22ac=22a2+0338 22ad=22a8+0338 22ae=22a9+0338
  22af=22ab+0338 22e0=227c+0338 22e1=227d+0338 22e2=2291+0338 22e3=2292+0338 22ea=22b2+0338
  22eb=22b3+0338 22ec=22b4+0338 22ed=22b5+0338 2329=3008 232a=3009 2adc=2add+0338 304c=304b+3099
  304e=304d+3099 3050=304f+3099 3052=3051+3099 3054=3053+3099 3056=3055+3099 3058=3057+3099
  305a=3059+3099 305c=305b+3099 305e=305d+3099 3060=305f+3099 3062=3061+3099 3065=3064+3099
  3067=3066+3099 3069=3068+3099 3070=306f+3099 3071=306f+309a 3073=3072+3099 3074=3072+309a
  3076=3075+3099 3077=3075+309a 3079=3078+3099 307a=3078+309a 307c=307b+3099 307d=307b+309a
  3094=3046+3099 309e=309d+3099 30ac=30ab+3099 30ae=30ad+3099 30b0=30af+3099 30b2=30b1+3099
  30b4=30b3+3099 30b6=30b5+3099 30b8=30b7+3099 30ba=30b9+3099 30bc=30bb+3099 30be=30bd+3099
  30c0=30bf+3099 30c2=30c1+3099 30c5=30c4+3099 30c7=30c6+3099 30c9=30c8+3099 30d0=30cf+3099
  30d1=30cf+309a 30d3=30d2+3099 30d4=30d2+309a 30d6=30d5+3099 30d7=30d5+309a 30d9=30d8+3099
  30da=30d8+309a 30dc=30db+3099 30dd=30db+309a 30f4=30a6+3099 30f7=30ef+3099 30f8=30f0+3099
  30f9=30f1+3099 30fa=30f2+3099 30fe=30fd+3099 f900=8c48 f901=66f4 f902=8eca f903=8cc8 f904=6ed1
  f905=4e32 f906=53e5 f907=9f9c f908=9f9c f909=5951 f90a=91d1 f90b=5587 f90c=5948 f90d=61f6
  f90e=7669 f90f=7f85 f910=863f f911=87ba f912=88f8 f913=908f f914=6a02 f915=6d1b f916=70d9
  f917=73de f918=843d f919=916a f91a=99f1 f91b=4e82 f91c=5375 f91d=6b04 f91e=721b f91f=862d
  f920=9e1e f921=5d50 f922=6feb f923=85cd f924=8964 f925=62c9 f926=81d8 f927=881f f928=5eca
  f929=6717 f92a=6d6a f92b=72fc f92c=90ce f92d=4f86 f92e=51b7 f92f=52de f930=64c4 f931=6ad3
  f932=7210 f933=76e7 f934=8001 f935=8606 f936=865c f937=8def f938=9732 f939=9b6f f93a=9dfa
  f93b=788c f93c=797f f93d=7da0 f93e=83c9 f93f=9304 f940=9e7f f941=8ad6 f942=58df f943=5f04
  f944=7c60 f945=807e f946=7262 f947=78ca f948=8cc2 f949=96f7 f94a=58d8 f94b=5c62 f94c=6a13
  f94d=6dda f94e=6f0f f94f=7d2f f950=7e37 f951=964b f952=52d2 f953=808b f954=51dc f955=51cc
  f956=7a1c f957=7dbe f958=83f1 f959=9675 f95a=8b80 f95b=62cf f95c=6a02 f95d=8afe f95e=4e39
  f95f=5be7 f960=6012 f961=7387 f962=7570 f963=5317 f964=78fb f965=4fbf f966=5fa9 f967=4e0d
  f968=6ccc f969=6578 f96a=7d22 f96b=53c3 f96c=585e f96d=7701 f96e=8449 f96f=8aaa f970=6bba
  f971=8fb0 f972=6c88 f973=62fe f974=82e5 f975=63a0 f976=7565 f977=4eae f978=5169 f979=51c9
  f97a=6881 f97b=7ce7 f97c=826f f97d=8ad2 f97e=91cf f97f=52f5 f980=5442 f981=5973 f982=5eec
  f983=65c5 f984=6ffe f985=792a f986=95ad f987=9a6a f988=9e97 f989=9ece f98a=529b f98b=66c6
  f98c=6b77 f98d=8f62 f98e=5e74 f98f=6190 f990=6200 f991=649a f992=6f23 f993=7149 f994=7489
  f995=79ca f996=7df4 f997=806f f998=8f26 f999=84ee f99a=9023 f99b=934a f99c=5217 f99d=52a3
  f99e=54bd f99f=70c8 f9a0=88c2 f9a1=8aaa f9a2=5ec9 f9a3=5ff5 f9a4=637b f9a5=6bae f9a6=7c3e
  f9a7=7375 f9a8=4ee4 f9a9=56f9 f9aa=5be7 f9ab=5dba f9ac=601c f9ad=73b2 f9ae=7469 f9af=7f9a
  f9b0=8046 f9b1=9234 f9b2=96f6 f9b3=9748 f9b4=9818 f9b5=4f8b f9b6=79ae f9b7=91b4 f9b8=96b8
  f9b9=60e1 f9ba=4e86 f9bb=50da f9bc=5bee f9bd=5c3f f9be=6599 f9bf=6a02 f9c0=71ce f9c1=7642
  f9c2=84fc f9c3=907c f9c4=9f8d f9c5=6688 f9c6=962e f9c7=5289 f9c8=677b f9c9=67f3 f9ca=6d41
  f9cb=6e9c f9cc=7409 f9cd=7559 f9ce=786b f9cf=7d10 f9d0=985e f9d1=516d f9d2=622e f9d3=9678
  f9d4=502b f9d5=5d19 f9d6=6dea f9d7=8f2a f9d8=5f8b f9d9=6144 f9da=6817 f9db=7387 f9dc=9686
  f9dd=5229 f9de=540f f9df=5c65 f9e0=6613 f9e1=674e f9e2=68a8 f9e3=6ce5 f9e4=7406 f9e5=75e2
  f9e6=7f79 f9e7=88cf f9e8=88e1 f9e9=91cc f9ea=96e2 f9eb=533f f9ec=6eba f9ed=541d f9ee=71d0
  f9ef=7498 f9f0=85fa f9f1=96a3 f9f2=9c57 f9f3=9e9f f9f4=6797 f9f5=6dcb f9f6=81e8 f9f7=7acb
  f9f8=7b20 f9f9=7c92 f9fa=72c0 f9fb=7099 f9fc=8b58 f9fd=4ec0 f9fe=8336 f9ff=523a fa00=5207
  fa01=5ea6 fa02=62d3 fa03=7cd6 fa04=5b85 fa05=6d1e fa06=66b4 fa07=8f3b fa08=884c fa09=964d
  fa0a=898b fa0b=5ed3 fa0c=5140 fa0d=55c0 fa10=585a fa12=6674 fa15=51de fa16=732a fa17=76ca
  fa18=793c fa19=795e fa1a=7965 fa1b=798f fa1c=9756 fa1d=7cbe fa1e=7fbd fa20=8612 fa22=8af8
  fa25=9038 fa26=90fd fa2a=98ef fa2b=98fc fa2c=9928 fa2d=9db4 fa2e=90de fa2f=96b7 fa30=4fae
  fa31=50e7 fa32=514d fa33=52c9 fa34=52e4 fa35=5351 fa36=559d fa37=5606 fa38=5668 fa39=5840
  fa3a=58a8 fa3b=5c64 fa3c=5c6e fa3d=6094 fa3e=6168 fa3f=618e fa40=61f2 fa41=654f fa42=65e2
  fa43=6691 fa44=6885 fa45=6d77 fa46=6e1a fa47=6f22 fa48=716e fa49=722b fa4a=7422 fa4b=7891
  fa4c=793e fa4d=7949 fa4e=7948 fa4f=7950 fa50=7956 fa51=795d fa52=798d fa53=798e fa54=7a40
  fa55=7a81 fa56=7bc0 fa57=7df4 fa58=7e09 fa59=7e41 fa5a=7f72 fa5b=8005 fa5c=81ed fa5d=8279
  fa5e=8279 fa5f=8457 fa60=8910 fa61=8996 fa62=8b01 fa63=8b39 fa64=8cd3 fa65=8d08 fa66=8fb6
  fa67=9038 fa68=96e3 fa69=97ff fa6a=983b fa6b=6075 fa6c=242ee fa6d=8218 fa70=4e26 fa71=51b5
  fa72=5168 fa73=4f80 fa74=5145 fa75=5180 fa76=52c7 fa77=52fa fa78=559d fa79=5555 fa7a=5599
  fa7b=55e2 fa7c=585a fa7d=58b3 fa7e=5944 fa7f=5954 fa80=5a62 fa81=5b28 fa82=5ed2 fa83=5ed9
  fa84=5f69 fa85=5fad fa86=60d8 fa87=614e fa88=6108 fa89=618e fa8a=6160 fa8b=61f2 fa8c=6234
  fa8d=63c4 fa8e=641c fa8f=6452 fa90=6556 fa91=6674 fa92=6717 fa93=671b fa94=6756 fa95=6b79
  fa96=6bba fa97=6d41 fa98=6edb fa99=6ecb fa9a=6f22 fa9b=701e fa9c=716e fa9d=77a7 fa9e=7235
  fa9f=72af faa0=732a faa1=7471 faa2=7506 faa3=753b faa4=761d faa5=761f faa6=76ca faa7=76db
  faa8=76f4 faa9=774a faaa=7740 faab=78cc faac=7ab1 faad=7bc0 faae=7c7b faaf=7d5b fab0=7df4
  fab1=7f3e fab2=8005 fab3=8352 fab4=83ef fab5=8779 fab6=8941 fab7=8986 fab8=8996 fab9=8abf
  faba=8af8 fabb=8acb fabc=8b01 fabd=8afe fabe=8aed fabf=8b39 fac0=8b8a fac1=8d08 fac2=8f38
  fac3=9072 fac4=9199 fac5=9276 fac6=967c fac7=96e3 fac8=9756 fac9=97db faca=97ff facb=980b
  facc=983b facd=9b12 face=9f9c facf=2284a fad0=22844 fad1=233d5 fad2=3b9d fad3=4018 fad4=4039
  fad5=25249 fad6=25cd0 fad7=27ed3 fad8=9f43 fad9=9f8e fb1d=05d9+05b4 fb1f=05f2+05b7
  fb2a=05e9+05c1 fb2b=05e9+05c2 fb2c=fb49+05c1 fb2d=fb49+05c2 fb2e=05d0+05b7 fb2f=05d0+05b8
  fb30=05d0+05bc fb31=05d1+05bc fb32=05d2+05bc fb33=05d3+05bc fb34=05d4+05bc fb35=05d5+05bc
  fb36=05d6+05bc fb38=05d8+05bc fb39=05d9+05bc fb3a=05da+05bc fb3b=05db+05bc fb3c=05dc+05bc
  fb3e=05de+05bc fb40=05e0+05bc fb41=05e1+05bc fb43=05e3+05bc fb44=05e4+05bc fb46=05e6+05bc
  fb47=05e7+05bc fb48=05e8+05bc fb49=05e9+05bc fb4a=05ea+05bc fb4b=05d5+05b9 fb4c=05d1+05bf
  fb4d=05db+05bf fb4e=05e4+05bf 1109a=11099+110ba 1109c=1109b+110ba 110ab=110a5+110ba
  1112e=11131+11127 1112f=11132+11127 1134b=11347+1133e 1134c=11347+11357 114bb=114b9+114ba
  114bc=114b9+114b0 114be=114b9+114bd 115ba=115b8+115af 115bb=115b9+115af 11938=11935+11930
  1d15e=1d157+1d165 1d15f=1d158+1d165 1d160=1d15f+1d16e 1d161=1d15f+1d16f 1d162=1d15f+1d170
  1d163=1d15f+1d171 1d164=1d15f+1d172 1d1bb=1d1b9+1d165 1d1bc=1d1ba+1d165 1d1bd=1d1bb+1d16e
  1d1be=1d1bc+1d16e 1d1bf=1d1bb+1d16f 1d1c0=1d1bc+1d16f 2f800=4e3d 2f801=4e38 2f802=4e41
  2f803=20122 2f804=4f60 2f805=4fae 2f806=4fbb 2f807=5002 2f808=507a 2f809=5099 2f80a=50e7
  2f80b=50cf 2f80c=349e 2f80d=2063a 2f80e=514d 2f80f=5154 2f810=5164 2f811=5177 2f812=2051c
  2f813=34b9 2f814=5167 2f815=518d 2f816=2054b 2f817=5197 2f818=51a4 2f819=4ecc 2f81a=51ac
  2f81b=51b5 2f81c=291df 2f81d=51f5 2f81e=5203 2f81f=34df 2f820=523b 2f821=5246 2f822=5272
  2f823=5277 2f824=3515 2f825=52c7 2f826=52c9 2f827=52e4 2f828=52fa 2f829=5305 2f82a=5306
  2f82b=5317 2f82c=5349 2f82d=5351 2f82e=535a 2f82f=5373 2f830=537d 2f831=537f 2f832=537f
  2f833=537f 2f834=20a2c 2f835=7070 2f836=53ca 2f837=53df 2f838=20b63 2f839=53eb 2f83a=53f1
  2f83b=5406 2f83c=549e 2f83d=5438 2f83e=5448 2f83f=5468 2f840=54a2 2f841=54f6 2f842=5510
  2f843=5553 2f844=5563 2f845=5584 2f846=5584 2f847=5599 2f848=55ab 2f849=55b3 2f84a=55c2
  2f84b=5716 2f84c=5606 2f84d=5717 2f84e=5651 2f84f=5674 2f850=5207 2f851=58ee 2f852=57ce
  2f853=57f4 2f854=580d 2f855=578b 2f856=5832 2f857=5831 2f858=58ac 2f859=214e4 2f85a=58f2
  2f85b=58f7 2f85c=5906 2f85d=591a 2f85e=5922 2f85f=5962 2f860=216a8 2f861=216ea 2f862=59ec
  2f863=5a1b 2f864=5a27 2f865=59d8 2f866=5a66 2f867=36ee 2f868=36fc 2f869=5b08 2f86a=5b3e
  2f86b=5b3e 2f86c=219c8 2f86d=5bc3 2f86e=5bd8 2f86f=5be7 2f870=5bf3 2f871=21b18 2f872=5bff
  2f873=5c06 2f874=5f53 2f875=5c22 2f876=3781 2f877=5c60 2f878=5c6e 2f879=5cc0 2f87a=5c8d
  2f87b=21de4 2f87c=5d43 2f87d=21de6 2f87e=5d6e 2f87f=5d6b 2f880=5d7c 2f881=5de1 2f882=5de2
  2f883=382f 2f884=5dfd 2f885=5e28 2f886=5e3d 2f887=5e69 2f888=3862 2f889=22183 2f88a=387c
  2f88b=5eb0 2f88c=5eb3 2f88d=5eb6 2f88e=5eca 2f88f=2a392 2f890=5efe 2f891=22331 2f892=22331
  2f893=8201 2f894=5f22 2f895=5f22 2f896=38c7 2f897=232b8 2f898=261da 2f899=5f62 2f89a=5f6b
  2f89b=38e3 2f89c=5f9a 2f89d=5fcd 2f89e=5fd7 2f89f=5ff9 2f8a0=6081 2f8a1=393a 2f8a2=391c
  2f8a3=6094 2f8a4=226d4 2f8a5=60c7 2f8a6=6148 2f8a7=614c 2f8a8=614e 2f8a9=614c 2f8aa=617a
  2f8ab=618e 2f8ac=61b2 2f8ad=61a4 2f8ae=61af 2f8af=61de 2f8b0=61f2 2f8b1=61f6 2f8b2=6210
  2f8b3=621b 2f8b4=625d 2f8b5=62b1 2f8b6=62d4 2f8b7=6350 2f8b8=22b0c 2f8b9=633d 2f8ba=62fc
  2f8bb=6368 2f8bc=6383 2f8bd=63e4 2f8be=22bf1 2f8bf=6422 2f8c0=63c5 2f8c1=63a9 2f8c2=3a2e
  2f8c3=6469 2f8c4=647e 2f8c5=649d 2f8c6=6477 2f8c7=3a6c 2f8c8=654f 2f8c9=656c 2f8ca=2300a
  2f8cb=65e3 2f8cc=66f8 2f8cd=6649 2f8ce=3b19 2f8cf=6691 2f8d0=3b08 2f8d1=3ae4 2f8d2=5192
  2f8d3=5195 2f8d4=6700 2f8d5=669c 2f8d6=80ad 2f8d7=43d9 2f8d8=6717 2f8d9=671b 2f8da=6721
  2f8db=675e 2f8dc=6753 2f8dd=233c3 2f8de=3b49 2f8df=67fa 2f8e0=6785 2f8e1=6852 2f8e2=6885
  2f8e3=2346d 2f8e4=688e 2f8e5=681f 2f8e6=6914 2f8e7=3b9d 2f8e8=6942 2f8e9=69a3 2f8ea=69ea
  2f8eb=6aa8 2f8ec=236a3 2f8ed=6adb 2f8ee=3c18 2f8ef=6b21 2f8f0=238a7 2f8f1=6b54 2f8f2=3c4e
  2f8f3=6b72 2f8f4=6b9f 2f8f5=6bba 2f8f6=6bbb 2f8f7=23a8d 2f8f8=21d0b 2f8f9=23afa 2f8fa=6c4e
  2f8fb=23cbc 2f8fc=6cbf 2f8fd=6ccd 2f8fe=6c67 2f8ff=6d16 2f900=6d3e 2f901=6d77 2f902=6d41
  2f903=6d69 2f904=6d78 2f905=6d85 2f906=23d1e 2f907=6d34 2f908=6e2f 2f909=6e6e 2f90a=3d33
  2f90b=6ecb 2f90c=6ec7 2f90d=23ed1 2f90e=6df9 2f90f=6f6e 2f910=23f5e 2f911=23f8e 2f912=6fc6
  2f913=7039 2f914=701e 2f915=701b 2f916=3d96 2f917=704a 2f918=707d 2f919=7077 2f91a=70ad
  2f91b=20525 2f91c=7145 2f91d=24263 2f91e=719c 2f91f=243ab 2f920=7228 2f921=7235 2f922=7250
  2f923=24608 2f924=7280 2f925=7295 2f926=24735 2f927=24814 2f928=737a 2f929=738b 2f92a=3eac
  2f92b=73a5 2f92c=3eb8 2f92d=3eb8 2f92e=7447 2f92f=745c 2f930=7471 2f931=7485 2f932=74ca
  2f933=3f1b 2f934=7524 2f935=24c36 2f936=753e 2f937=24c92 2f938=7570 2f939=2219f 2f93a=7610
  2f93b=24fa1 2f93c=24fb8 2f93d=25044 2f93e=3ffc 2f93f=4008 2f940=76f4 2f941=250f3 2f942=250f2
  2f943=25119 2f944=25133 2f945=771e 2f946=771f 2f947=771f 2f948=774a 2f949=4039 2f94a=778b
  2f94b=4046 2f94c=4096 2f94d=2541d 2f94e=784e 2f94f=788c 2f950=78cc 2f951=40e3 2f952=25626
  2f953=7956 2f954=2569a 2f955=256c5 2f956=798f 2f957=79eb 2f958=412f 2f959=7a40 2f95a=7a4a
  2f95b=7a4f 2f95c=2597c 2f95d=25aa7 2f95e=25aa7 2f95f=7aee 2f960=4202 2f961=25bab 2f962=7bc6
  2f963=7bc9 2f964=4227 2f965=25c80 2f966=7cd2 2f967=42a0 2f968=7ce8 2f969=7ce3 2f96a=7d00
  2f96b=25f86 2f96c=7d63 2f96d=4301 2f96e=7dc7 2f96f=7e02 2f970=7e45 2f971=4334 2f972=26228
  2f973=26247 2f974=4359 2f975=262d9 2f976=7f7a 2f977=2633e 2f978=7f95 2f979=7ffa 2f97a=8005
  2f97b=264da 2f97c=26523 2f97d=8060 2f97e=265a8 2f97f=8070 2f980=2335f 2f981=43d5 2f982=80b2
  2f983=8103 2f984=440b 2f985=813e 2f986=5ab5 2f987=267a7 2f988=267b5 2f989=23393 2f98a=2339c
  2f98b=8201 2f98c=8204 2f98d=8f9e 2f98e=446b 2f98f=8291 2f990=828b 2f991=829d 2f992=52b3
  2f993=82b1 2f994=82b3 2f995=82bd 2f996=82e6 2f997=26b3c 2f998=82e5 2f999=831d 2f99a=8363
  2f99b=83ad 2f99c=8323 2f99d=83bd 2f99e=83e7 2f99f=8457 2f9a0=8353 2f9a1=83ca 2f9a2=83cc
  2f9a3=83dc 2f9a4=26c36 2f9a5=26d6b 2f9a6=26cd5 2f9a7=452b 2f9a8=84f1 2f9a9=84f3 2f9aa=8516
  2f9ab=273ca 2f9ac=8564 2f9ad=26f2c 2f9ae=455d 2f9af=4561 2f9b0=26fb1 2f9b1=270d2 2f9b2=456b
  2f9b3=8650 2f9b4=865c 2f9b5=8667 2f9b6=8669 2f9b7=86a9 2f9b8=8688 2f9b9=870e 2f9ba=86e2
  2f9bb=8779 2f9bc=8728 2f9bd=876b 2f9be=8786 2f9bf=45d7 2f9c0=87e1 2f9c1=8801 2f9c2=45f9
  2f9c3=8860 2f9c4=8863 2f9c5=27667 2f9c6=88d7 2f9c7=88de 2f9c8=4635 2f9c9=88fa 2f9ca=34bb
  2f9cb=278ae 2f9cc=27966 2f9cd=46be 2f9ce=46c7 2f9cf=8aa0 2f9d0=8aed 2f9d1=8b8a 2f9d2=8c55
  2f9d3=27ca8 2f9d4=8cab 2f9d5=8cc1 2f9d6=8d1b 2f9d7=8d77 2f9d8=27f2f 2f9d9=20804 2f9da=8dcb
  2f9db=8dbc 2f9dc=8df0 2f9dd=208de 2f9de=8ed4 2f9df=8f38 2f9e0=285d2 2f9e1=285ed 2f9e2=9094
  2f9e3=90f1 2f9e4=9111 2f9e5=2872e 2f9e6=911b 2f9e7=9238 2f9e8=92d7 2f9e9=92d8 2f9ea=927c
  2f9eb=93f9 2f9ec=9415 2f9ed=28bfa 2f9ee=958b 2f9ef=4995 2f9f0=95b7 2f9f1=28d77 2f9f2=49e6
  2f9f3=96c3 2f9f4=5db2 2f9f5=9723 2f9f6=29145 2f9f7=2921a 2f9f8=4a6e 2f9f9=4a76 2f9fa=97e0
  2f9fb=2940a 2f9fc=4ab2 2f9fd=29496 2f9fe=980b 2f9ff=980b 2fa00=9829 2fa01=295b6 2fa02=98e2
  2fa03=4b33 2fa04=9929 2fa05=99a7 2fa06=99c2 2fa07=99fe 2fa08=4bce 2fa09=29b30 2fa0a=9b12
  2fa0b=9c40 2fa0c=9cfd 2fa0d=4cce 2fa0e=4ced 2fa0f=9d67 2fa10=2a0ce 2fa11=4cf8 2fa12=2a105
  2fa13=2a20e 2fa14=2a291 2fa15=9ebb 2fa16=4d56 2fa17=9ef9 2fa18=9efe 2fa19=9f05 2fa1a=9f0f
  2fa1b=9f16 2fa1c=9f3b 2fa1d=2a600"

/-- Characters that are taken apart to two and never put together. -/
def neverComposed : Ranges := [
  (0x344, 0x344), (0x958, 0x95F), (0x9DC, 0x9DD), (0x9DF, 0x9DF), (0xA33, 0xA33), (0xA36, 0xA36),
  (0xA59, 0xA5B), (0xA5E, 0xA5E), (0xB5C, 0xB5D), (0xF43, 0xF43), (0xF4D, 0xF4D), (0xF52, 0xF52),
  (0xF57, 0xF57), (0xF5C, 0xF5C), (0xF69, 0xF69), (0xF73, 0xF73), (0xF75, 0xF76), (0xF78, 0xF78),
  (0xF81, 0xF81), (0xF93, 0xF93), (0xF9D, 0xF9D), (0xFA2, 0xFA2), (0xFA7, 0xFA7), (0xFAC, 0xFAC),
  (0xFB9, 0xFB9), (0x2ADC, 0x2ADC), (0xFB1D, 0xFB1D), (0xFB1F, 0xFB1F), (0xFB2A, 0xFB36),
  (0xFB38, 0xFB3C), (0xFB3E, 0xFB3E), (0xFB40, 0xFB41), (0xFB43, 0xFB44), (0xFB46, 0xFB4E),
  (0x1D15E, 0x1D164), (0x1D1BB, 0x1D1C0)]

end Bindery.Text
