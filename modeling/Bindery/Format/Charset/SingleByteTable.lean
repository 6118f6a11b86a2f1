/-!
# Sets of characters in one byte

The sets of characters in which one byte is one character, as data.  A word of a set gives a byte
in hexadecimal digits, the character that it stands for, if any, and how many bytes from there on
stand for characters that follow each other.  A byte without a word stands for the character of
the same number.
-/

namespace Bindery.Format.Charset

/-- The sets by name. -/
def singleByteSets : List (String × String) := [
  ("latin_1", ""),
  ("ascii", "
    80=+128"),
  ("cp037", "
    04=009c 05=0009 06=0086 07=007f 08=0097 09=008d+2 14=009d 15=0085 16=0008 17=0087 1a=0092
    1b=008f 20=0080+5 25=000a 26=0017 27=001b 28=0088+5 2d=0005+3 30=0090+2 32=0016 33=0093+4
    37=0004 38=0098+4 3c=0014+2 3e=009e 3f=001a 40=0020 41=00a0 42=00e2 43=00e4 44=00e0+2
    46=00e3 47=00e5 48=00e7 49=00f1 4a=00a2 4b=002e 4c=003c 4d=0028 4e=002b 4f=007c 50=0026
    51=00e9+3 54=00e8 55=00ed+3 58=00ec 59=00df 5a=0021 5b=0024 5c=002a 5d=0029 5e=003b 5f=00ac
    60=002d 61=002f 62=00c2 63=00c4 64=00c0+2 66=00c3 67=00c5 68=00c7 69=00d1 6a=00a6 6b=002c
    6c=0025 6d=005f 6e=003e+2 70=00f8 71=00c9+3 74=00c8 75=00cd+3 78=00cc 79=0060 7a=003a
    7b=0023 7c=0040 7d=0027 7e=003d 7f=0022 80=00d8 81=0061+9 8a=00ab 8b=00bb 8c=00f0 8d=00fd+2
    8f=00b1 90=00b0 91=006a+9 9a=00aa 9b=00ba 9c=00e6 9d=00b8 9e=00c6 9f=00a4 a0=00b5 a1=007e
    a2=0073+8 aa=00a1 ab=00bf ac=00d0 ad=00dd+2 af=00ae b0=005e b1=00a3 b2=00a5 b3=00b7 b4=00a9
    b5=00a7 b7=00bc+3 ba=005b bb=005d bc=00af bd=00a8 be=00b4 bf=00d7 c0=007b c1=0041+9 ca=00ad
    cb=00f4 cc=00f6 cd=00f2+2 cf=00f5 d0=007d d1=004a+9 da=00b9 db=00fb+2 dd=00f9+2 df=00ff
    e0=005c e1=00f7 e2=0053+8 ea=00b2 eb=00d4 ec=00d6 ed=00d2+2 ef=00d5 f0=0030+10 fa=00b3
    fb=00db+2 fd=00d9+2 ff=009f"),
  ("cp1006", "
    a1=06f0+10 ab=060c ac=061b ae=061f af=fe81 b0=fe8d+2 b2=fe8e+2 b4=fe91 b5=fb56 b6=fb58
    b7=fe93 b8=fe95 b9=fe97 ba=fb66 bb=fb68 bc=fe99 bd=fe9b be=fe9d bf=fe9f c0=fb7a c1=fb7c
    c2=fea1 c3=fea3 c4=fea5 c5=fea7 c6=fea9 c7=fb84 c8=feab c9=fead ca=fb8c cb=feaf cc=fb8a
    cd=feb1 ce=feb3 cf=feb5 d0=feb7 d1=feb9 d2=febb d3=febd d4=febf d5=fec1 d6=fec5 d7=fec9+9
    e0=fed3 e1=fed5 e2=fed7 e3=fed9 e4=fedb e5=fb92 e6=fb94 e7=fedd e8=fedf+3 eb=fee3 ec=fb9e
    ed=fee5 ee=fee7 ef=fe85 f0=feed f1=fba6 f2=fba8+3 f5=fe80 f6=fe89+3 f9=fef1+3 fc=fbb0
    fd=fbae fe=fe7c+2"),
  ("cp1026", "
    04=009c 05=0009 06=0086 07=007f 08=0097 09=008d+2 14=009d 15=0085 16=0008 17=0087 1a=0092
    1b=008f 20=0080+5 25=000a 26=0017 27=001b 28=0088+5 2d=0005+3 30=0090+2 32=0016 33=0093+4
    37=0004 38=0098+4 3c=0014+2 3e=009e 3f=001a 40=0020 41=00a0 42=00e2 43=00e4 44=00e0+2
    46=00e3 47=00e5 48=007b 49=00f1 4a=00c7 4b=002e 4c=003c 4d=0028 4e=002b 4f=0021 50=0026
    51=00e9+3 54=00e8 55=00ed+3 58=00ec 59=00df 5a=011e 5b=0130 5c=002a 5d=0029 5e=003b 5f=005e
    60=002d 61=002f 62=00c2 63=00c4 64=00c0+2 66=00c3 67=00c5 68=005b 69=00d1 6a=015f 6b=002c
    6c=0025 6d=005f 6e=003e+2 70=00f8 71=00c9+3 74=00c8 75=00cd+3 78=00cc 79=0131 7a=003a
    7b=00d6 7c=015e 7d=0027 7e=003d 7f=00dc 80=00d8 81=0061+9 8a=00ab 8b=00bb 8c=007d 8d=0060
    8e=00a6 8f=00b1 90=00b0 91=006a+9 9a=00aa 9b=00ba 9c=00e6 9d=00b8 9e=00c6 9f=00a4 a0=00b5
    a1=00f6 a2=0073+8 aa=00a1 ab=00bf ac=005d ad=0024 ae=0040 af=00ae b0=00a2+2 b2=00a5 b3=00b7
    b4=00a9 b5=00a7 b7=00bc+3 ba=00ac bb=007c bc=00af bd=00a8 be=00b4 bf=00d7 c0=00e7 c1=0041+9
    ca=00ad cb=00f4 cc=007e cd=00f2+2 cf=00f5 d0=011f d1=004a+9 da=00b9 db=00fb dc=005c
    dd=00f9+2 df=00ff e0=00fc e1=00f7 e2=0053+8 ea=00b2 eb=00d4 ec=0023 ed=00d2+2 ef=00d5
    f0=0030+10 fa=00b3 fb=00db fc=0022 fd=00d9+2 ff=009f"),
  ("cp1125", "
    80=0410+48 b0=2591+3 b3=2502 b4=2524 b5=2561+2 b7=2556 b8=2555 b9=2563 ba=2551 bb=2557
    bc=255d bd=255c be=255b bf=2510 c0=2514 c1=2534 c2=252c c3=251c c4=2500 c5=253c c6=255e+2
    c8=255a c9=2554 ca=2569 cb=2566 cc=2560 cd=2550 ce=256c cf=2567+2 d1=2564+2 d3=2559 d4=2558
    d5=2552+2 d7=256b d8=256a d9=2518 da=250c db=2588 dc=2584 dd=258c de=2590 df=2580
    e0=0440+16 f0=0401 f1=0451 f2=0490+2 f4=0404 f5=0454 f6=0406 f7=0456 f8=0407 f9=0457
    fa=00b7 fb=221a fc=2116 fd=00a4 fe=25a0 ff=00a0"),
  ("cp1140", "
    04=009c 05=0009 06=0086 07=007f 08=0097 09=008d+2 14=009d 15=0085 16=0008 17=0087 1a=0092
    1b=008f 20=0080+5 25=000a 26=0017 27=001b 28=0088+5 2d=0005+3 30=0090+2 32=0016 33=0093+4
    37=0004 38=0098+4 3c=0014+2 3e=009e 3f=001a 40=0020 41=00a0 42=00e2 43=00e4 44=00e0+2
    46=00e3 47=00e5 48=00e7 49=00f1 4a=00a2 4b=002e 4c=003c 4d=0028 4e=002b 4f=007c 50=0026
    51=00e9+3 54=00e8 55=00ed+3 58=00ec 59=00df 5a=0021 5b=0024 5c=002a 5d=0029 5e=003b 5f=00ac
    60=002d 61=002f 62=00c2 63=00c4 64=00c0+2 66=00c3 67=00c5 68=00c7 69=00d1 6a=00a6 6b=002c
    6c=0025 6d=005f 6e=003e+2 70=00f8 71=00c9+3 74=00c8 75=00cd+3 78=00cc 79=0060 7a=003a
    7b=0023 7c=0040 7d=0027 7e=003d 7f=0022 80=00d8 81=0061+9 8a=00ab 8b=00bb 8c=00f0 8d=00fd+2
    8f=00b1 90=00b0 91=006a+9 9a=00aa 9b=00ba 9c=00e6 9d=00b8 9e=00c6 9f=20ac a0=00b5 a1=007e
    a2=0073+8 aa=00a1 ab=00bf ac=00d0 ad=00dd+2 af=00ae b0=005e b1=00a3 b2=00a5 b3=00b7 b4=00a9
    b5=00a7 b7=00bc+3 ba=005b bb=005d bc=00af bd=00a8 be=00b4 bf=00d7 c0=007b c1=0041+9 ca=00ad
    cb=00f4 cc=00f6 cd=00f2+2 cf=00f5 d0=007d d1=004a+9 da=00b9 db=00fb+2 dd=00f9+2 df=00ff
    e0=005c e1=00f7 e2=0053+8 ea=00b2 eb=00d4 ec=00d6 ed=00d2+2 ef=00d5 f0=0030+10 fa=00b3
    fb=00db+2 fd=00d9+2 ff=009f"),
  ("cp1250", "
    80=20ac 81= 82=201a 83= 84=201e 85=2026 86=2020+2 88= 89=2030 8a=0160 8b=2039 8c=015a
    8d=0164 8e=017d 8f=0179 90= 91=2018+2 93=201c+2 95=2022 96=2013+2 98= 99=2122 9a=0161
    9b=203a 9c=015b 9d=0165 9e=017e 9f=017a a1=02c7 a2=02d8 a3=0141 a5=0104 aa=015e af=017b
    b2=02db b3=0142 b9=0105 ba=015f bc=013d bd=02dd be=013e bf=017c c0=0154 c3=0102 c5=0139
    c6=0106 c8=010c ca=0118 cc=011a cf=010e d0=0110 d1=0143 d2=0147 d5=0150 d8=0158 d9=016e
    db=0170 de=0162 e0=0155 e3=0103 e5=013a e6=0107 e8=010d ea=0119 ec=011b ef=010f f0=0111
    f1=0144 f2=0148 f5=0151 f8=0159 f9=016f fb=0171 fe=0163 ff=02d9"),
  ("cp1251", "
    80=0402+2 82=201a 83=0453 84=201e 85=2026 86=2020+2 88=20ac 89=2030 8a=0409 8b=2039 8c=040a
    8d=040c 8e=040b 8f=040f 90=0452 91=2018+2 93=201c+2 95=2022 96=2013+2 98= 99=2122 9a=0459
    9b=203a 9c=045a 9d=045c 9e=045b 9f=045f a1=040e a2=045e a3=0408 a5=0490 a8=0401 aa=0404
    af=0407 b2=0406 b3=0456 b4=0491 b8=0451 b9=2116 ba=0454 bc=0458 bd=0405 be=0455 bf=0457
    c0=0410+64"),
  ("cp1252", "
    80=20ac 81= 82=201a 83=0192 84=201e 85=2026 86=2020+2 88=02c6 89=2030 8a=0160 8b=2039
    8c=0152 8d= 8e=017d 8f=+2 91=2018+2 93=201c+2 95=2022 96=2013+2 98=02dc 99=2122 9a=0161
    9b=203a 9c=0153 9d= 9e=017e 9f=0178"),
  ("cp1253", "
    80=20ac 81= 82=201a 83=0192 84=201e 85=2026 86=2020+2 88= 89=2030 8a= 8b=2039 8c=+5
    91=2018+2 93=201c+2 95=2022 96=2013+2 98= 99=2122 9a= 9b=203a 9c=+4 a1=0385+2 aa= af=2015
    b4=0384 b8=0388+3 bc=038c be=038e+20 d2= d3=03a3+44 ff="),
  ("cp1254", "
    80=20ac 81= 82=201a 83=0192 84=201e 85=2026 86=2020+2 88=02c6 89=2030 8a=0160 8b=2039
    8c=0152 8d=+4 91=2018+2 93=201c+2 95=2022 96=2013+2 98=02dc 99=2122 9a=0161 9b=203a 9c=0153
    9d=+2 9f=0178 d0=011e dd=0130 de=015e f0=011f fd=0131 fe=015f"),
  ("cp1255", "
    80=20ac 81= 82=201a 83=0192 84=201e 85=2026 86=2020+2 88=02c6 89=2030 8a= 8b=2039 8c=+5
    91=2018+2 93=201c+2 95=2022 96=2013+2 98=02dc 99=2122 9a= 9b=203a 9c=+4 a4=20aa aa=00d7
    ba=00f7 c0=05b0+10 ca= cb=05bb+9 d4=05f0+5 d9=+7 e0=05d0+27 fb=+2 fd=200e+2 ff="),
  ("cp1256", "
    80=20ac 81=067e 82=201a 83=0192 84=201e 85=2026 86=2020+2 88=02c6 89=2030 8a=0679 8b=2039
    8c=0152 8d=0686 8e=0698 8f=0688 90=06af 91=2018+2 93=201c+2 95=2022 96=2013+2 98=06a9
    99=2122 9a=0691 9b=203a 9c=0153 9d=200c+2 9f=06ba a1=060c aa=06be ba=061b bf=061f c0=06c1
    c1=0621+22 d8=0637+4 dc=0640+4 e1=0644 e3=0645+4 ec=0649+2 f0=064b+4 f5=064f+2 f8=0651
    fa=0652 fd=200e+2 ff=06d2"),
  ("cp1257", "
    80=20ac 81= 82=201a 83= 84=201e 85=2026 86=2020+2 88= 89=2030 8a= 8b=2039 8c= 8d=00a8
    8e=02c7 8f=00b8 90= 91=2018+2 93=201c+2 95=2022 96=2013+2 98= 99=2122 9a= 9b=203a 9c=
    9d=00af 9e=02db 9f= a1= a5= a8=00d8 aa=0156 af=00c6 b8=00f8 ba=0157 bf=00e6 c0=0104 c1=012e
    c2=0100 c3=0106 c6=0118 c7=0112 c8=010c ca=0179 cb=0116 cc=0122 cd=0136 ce=012a cf=013b
    d0=0160 d1=0143 d2=0145 d4=014c d8=0172 d9=0141 da=015a db=016a dd=017b de=017d e0=0105
    e1=012f e2=0101 e3=0107 e6=0119 e7=0113 e8=010d ea=017a eb=0117 ec=0123 ed=0137 ee=012b
    ef=013c f0=0161 f1=0144 f2=0146 f4=014d f8=0173 f9=0142 fa=015b fb=016b fd=017c fe=017e
    ff=02d9"),
  ("cp1258", "
    80=20ac 81= 82=201a 83=0192 84=201e 85=2026 86=2020+2 88=02c6 89=2030 8a= 8b=2039 8c=0152
    8d=+4 91=2018+2 93=201c+2 95=2022 96=2013+2 98=02dc 99=2122 9a= 9b=203a 9c=0153 9d=+2
    9f=0178 c3=0102 cc=0300 d0=0110 d2=0309 d5=01a0 dd=01af de=0303 e3=0103 ec=0301 f0=0111
    f2=0323 f5=01a1 fd=01b0 fe=20ab"),
  ("cp273", "
    04=009c 05=0009 06=0086 07=007f 08=0097 09=008d+2 14=009d 15=0085 16=0008 17=0087 1a=0092
    1b=008f 20=0080+5 25=000a 26=0017 27=001b 28=0088+5 2d=0005+3 30=0090+2 32=0016 33=0093+4
    37=0004 38=0098+4 3c=0014+2 3e=009e 3f=001a 40=0020 41=00a0 42=00e2 43=007b 44=00e0+2
    46=00e3 47=00e5 48=00e7 49=00f1 4a=00c4 4b=002e 4c=003c 4d=0028 4e=002b 4f=0021 50=0026
    51=00e9+3 54=00e8 55=00ed+3 58=00ec 59=007e 5a=00dc 5b=0024 5c=002a 5d=0029 5e=003b 5f=005e
    60=002d 61=002f 62=00c2 63=005b 64=00c0+2 66=00c3 67=00c5 68=00c7 69=00d1 6a=00f6 6b=002c
    6c=0025 6d=005f 6e=003e+2 70=00f8 71=00c9+3 74=00c8 75=00cd+3 78=00cc 79=0060 7a=003a
    7b=0023 7c=00a7 7d=0027 7e=003d 7f=0022 80=00d8 81=0061+9 8a=00ab 8b=00bb 8c=00f0 8d=00fd+2
    8f=00b1 90=00b0 91=006a+9 9a=00aa 9b=00ba 9c=00e6 9d=00b8 9e=00c6 9f=00a4 a0=00b5 a1=00df
    a2=0073+8 aa=00a1 ab=00bf ac=00d0 ad=00dd+2 af=00ae b0=00a2+2 b2=00a5 b3=00b7 b4=00a9
    b5=0040 b7=00bc+3 ba=00ac bb=007c bc=203e bd=00a8 be=00b4 bf=00d7 c0=00e4 c1=0041+9 ca=00ad
    cb=00f4 cc=00a6 cd=00f2+2 cf=00f5 d0=00fc d1=004a+9 da=00b9 db=00fb dc=007d dd=00f9+2
    df=00ff e0=00d6 e1=00f7 e2=0053+8 ea=00b2 eb=00d4 ec=005c ed=00d2+2 ef=00d5 f0=0030+10
    fa=00b3 fb=00db fc=005d fd=00d9+2 ff=009f"),
  ("cp424", "
    04=009c 05=0009 06=0086 07=007f 08=0097 09=008d+2 14=009d 15=0085 16=0008 17=0087 1a=0092
    1b=008f 20=0080+5 25=000a 26=0017 27=001b 28=0088+5 2d=0005+3 30=0090+2 32=0016 33=0093+4
    37=0004 38=0098+4 3c=0014+2 3e=009e 3f=001a 40=0020 41=05d0+9 4a=00a2 4b=002e 4c=003c
    4d=0028 4e=002b 4f=007c 50=0026 51=05d9+9 5a=0021 5b=0024 5c=002a 5d=0029 5e=003b 5f=00ac
    60=002d 61=002f 62=05e2+8 6a=00a6 6b=002c 6c=0025 6d=005f 6e=003e+2 70= 71=05ea 72=+2
    74=00a0 75=+3 78=2017 79=0060 7a=003a 7b=0023 7c=0040 7d=0027 7e=003d 7f=0022 80= 81=0061+9
    8a=00ab 8b=00bb 8c=+3 8f=00b1 90=00b0 91=006a+9 9a=+3 9d=00b8 9e= 9f=00a4 a0=00b5 a1=007e
    a2=0073+8 aa=+5 af=00ae b0=005e b1=00a3 b2=00a5 b3=00b7 b4=00a9 b5=00a7 b7=00bc+3 ba=005b
    bb=005d bc=00af bd=00a8 be=00b4 bf=00d7 c0=007b c1=0041+9 ca=00ad cb=+5 d0=007d d1=004a+9
    da=00b9 db=+5 e0=005c e1=00f7 e2=0053+8 ea=00b2 eb=+5 f0=0030+10 fa=00b3 fb=+4 ff=009f"),
  ("cp437", "
    80=00c7 81=00fc 82=00e9 83=00e2 84=00e4 85=00e0 86=00e5 87=00e7 88=00ea+2 8a=00e8 8b=00ef
    8c=00ee 8d=00ec 8e=00c4+2 90=00c9 91=00e6 92=00c6 93=00f4 94=00f6 95=00f2 96=00fb 97=00f9
    98=00ff 99=00d6 9a=00dc 9b=00a2+2 9d=00a5 9e=20a7 9f=0192 a0=00e1 a1=00ed a2=00f3 a3=00fa
    a4=00f1 a5=00d1 a6=00aa a7=00ba a8=00bf a9=2310 aa=00ac ab=00bd ac=00bc ad=00a1 ae=00ab
    af=00bb b0=2591+3 b3=2502 b4=2524 b5=2561+2 b7=2556 b8=2555 b9=2563 ba=2551 bb=2557 bc=255d
    bd=255c be=255b bf=2510 c0=2514 c1=2534 c2=252c c3=251c c4=2500 c5=253c c6=255e+2 c8=255a
    c9=2554 ca=2569 cb=2566 cc=2560 cd=2550 ce=256c cf=2567+2 d1=2564+2 d3=2559 d4=2558
    d5=2552+2 d7=256b d8=256a d9=2518 da=250c db=2588 dc=2584 dd=258c de=2590 df=2580 e0=03b1
    e1=00df e2=0393 e3=03c0 e4=03a3 e5=03c3 e6=00b5 e7=03c4 e8=03a6 e9=0398 ea=03a9 eb=03b4
    ec=221e ed=03c6 ee=03b5 ef=2229 f0=2261 f1=00b1 f2=2265 f3=2264 f4=2320+2 f6=00f7 f7=2248
    f8=00b0 f9=2219 fa=00b7 fb=221a fc=207f fd=00b2 fe=25a0 ff=00a0"),
  ("cp500", "
    04=009c 05=0009 06=0086 07=007f 08=0097 09=008d+2 14=009d 15=0085 16=0008 17=0087 1a=0092
    1b=008f 20=0080+5 25=000a 26=0017 27=001b 28=0088+5 2d=0005+3 30=0090+2 32=0016 33=0093+4
    37=0004 38=0098+4 3c=0014+2 3e=009e 3f=001a 40=0020 41=00a0 42=00e2 43=00e4 44=00e0+2
    46=00e3 47=00e5 48=00e7 49=00f1 4a=005b 4b=002e 4c=003c 4d=0028 4e=002b 4f=0021 50=0026
    51=00e9+3 54=00e8 55=00ed+3 58=00ec 59=00df 5a=005d 5b=0024 5c=002a 5d=0029 5e=003b 5f=005e
    60=002d 61=002f 62=00c2 63=00c4 64=00c0+2 66=00c3 67=00c5 68=00c7 69=00d1 6a=00a6 6b=002c
    6c=0025 6d=005f 6e=003e+2 70=00f8 71=00c9+3 74=00c8 75=00cd+3 78=00cc 79=0060 7a=003a
    7b=0023 7c=0040 7d=0027 7e=003d 7f=0022 80=00d8 81=0061+9 8a=00ab 8b=00bb 8c=00f0 8d=00fd+2
    8f=00b1 90=00b0 91=006a+9 9a=00aa 9b=00ba 9c=00e6 9d=00b8 9e=00c6 9f=00a4 a0=00b5 a1=007e
    a2=0073+8 aa=00a1 ab=00bf ac=00d0 ad=00dd+2 af=00ae b0=00a2+2 b2=00a5 b3=00b7 b4=00a9
    b5=00a7 b7=00bc+3 ba=00ac bb=007c bc=00af bd=00a8 be=00b4 bf=00d7 c0=007b c1=0041+9 ca=00ad
    cb=00f4 cc=00f6 cd=00f2+2 cf=00f5 d0=007d d1=004a+9 da=00b9 db=00fb+2 dd=00f9+2 df=00ff
    e0=005c e1=00f7 e2=0053+8 ea=00b2 eb=00d4 ec=00d6 ed=00d2+2 ef=00d5 f0=0030+10 fa=00b3
    fb=00db+2 fd=00d9+2 ff=009f"),
  ("cp720", "
    82=00e9 83=00e2 85=00e0 87=00e7 88=00ea+2 8a=00e8 8b=00ef 8c=00ee 91=0651+2 93=00f4 94=00a4
    95=0640 96=00fb 97=00f9 98=0621+4 9c=00a3 9d=0625+17 ae=00ab af=00bb b0=2591+3 b3=2502
    b4=2524 b5=2561+2 b7=2556 b8=2555 b9=2563 ba=2551 bb=2557 bc=255d bd=255c be=255b bf=2510
    c0=2514 c1=2534 c2=252c c3=251c c4=2500 c5=253c c6=255e+2 c8=255a c9=2554 ca=2569 cb=2566
    cc=2560 cd=2550 ce=256c cf=2567+2 d1=2564+2 d3=2559 d4=2558 d5=2552+2 d7=256b d8=256a
    d9=2518 da=250c db=2588 dc=2584 dd=258c de=2590 df=2580 e0=0636+5 e5=0641 e6=00b5 e7=0642+9
    f0=2261 f1=064b+6 f7=2248 f8=00b0 f9=2219 fa=00b7 fb=221a fc=207f fd=00b2 fe=25a0 ff=00a0"),
  ("cp737", "
    80=0391+17 91=03a3+7 98=03b1+17 a9=03c3 aa=03c2 ab=03c4+5 b0=2591+3 b3=2502 b4=2524
    b5=2561+2 b7=2556 b8=2555 b9=2563 ba=2551 bb=2557 bc=255d bd=255c be=255b bf=2510 c0=2514
    c1=2534 c2=252c c3=251c c4=2500 c5=253c c6=255e+2 c8=255a c9=2554 ca=2569 cb=2566 cc=2560
    cd=2550 ce=256c cf=2567+2 d1=2564+2 d3=2559 d4=2558 d5=2552+2 d7=256b d8=256a d9=2518
    da=250c db=2588 dc=2584 dd=258c de=2590 df=2580 e0=03c9 e1=03ac+3 e4=03ca e5=03af e6=03cc+2
    e8=03cb e9=03ce ea=0386 eb=0388+3 ee=038c ef=038e+2 f1=00b1 f2=2265 f3=2264 f4=03aa+2
    f6=00f7 f7=2248 f8=00b0 f9=2219 fa=00b7 fb=221a fc=207f fd=00b2 fe=25a0 ff=00a0"),
  ("cp775", "
    80=0106 81=00fc 82=00e9 83=0101 84=00e4 85=0123 86=00e5 87=0107 88=0142 89=0113 8a=0156+2
    8c=012b 8d=0179 8e=00c4+2 90=00c9 91=00e6 92=00c6 93=014d 94=00f6 95=0122 96=00a2 97=015a+2
    99=00d6 9a=00dc 9b=00f8 9c=00a3 9d=00d8 9e=00d7 9f=00a4 a0=0100 a1=012a a2=00f3 a3=017b+2
    a5=017a a6=201d a7=00a6 a8=00a9 a9=00ae aa=00ac ab=00bd ac=00bc ad=0141 ae=00ab af=00bb
    b0=2591+3 b3=2502 b4=2524 b5=0104 b6=010c b7=0118 b8=0116 b9=2563 ba=2551 bb=2557 bc=255d
    bd=012e be=0160 bf=2510 c0=2514 c1=2534 c2=252c c3=251c c4=2500 c5=253c c6=0172 c7=016a
    c8=255a c9=2554 ca=2569 cb=2566 cc=2560 cd=2550 ce=256c cf=017d d0=0105 d1=010d d2=0119
    d3=0117 d4=012f d5=0161 d6=0173 d7=016b d8=017e d9=2518 da=250c db=2588 dc=2584 dd=258c
    de=2590 df=2580 e0=00d3 e1=00df e2=014c e3=0143 e4=00f5 e5=00d5 e6=00b5 e7=0144 e8=0136+2
    ea=013b+2 ec=0146 ed=0112 ee=0145 ef=2019 f0=00ad f1=00b1 f2=201c f3=00be f4=00b6 f5=00a7
    f6=00f7 f7=201e f8=00b0 f9=2219 fa=00b7 fb=00b9 fc=00b3 fd=00b2 fe=25a0 ff=00a0"),
  ("cp850", "
    80=00c7 81=00fc 82=00e9 83=00e2 84=00e4 85=00e0 86=00e5 87=00e7 88=00ea+2 8a=00e8 8b=00ef
    8c=00ee 8d=00ec 8e=00c4+2 90=00c9 91=00e6 92=00c6 93=00f4 94=00f6 95=00f2 96=00fb 97=00f9
    98=00ff 99=00d6 9a=00dc 9b=00f8 9c=00a3 9d=00d8 9e=00d7 9f=0192 a0=00e1 a1=00ed a2=00f3
    a3=00fa a4=00f1 a5=00d1 a6=00aa a7=00ba a8=00bf a9=00ae aa=00ac ab=00bd ac=00bc ad=00a1
    ae=00ab af=00bb b0=2591+3 b3=2502 b4=2524 b5=00c1+2 b7=00c0 b8=00a9 b9=2563 ba=2551 bb=2557
    bc=255d bd=00a2 be=00a5 bf=2510 c0=2514 c1=2534 c2=252c c3=251c c4=2500 c5=253c c6=00e3
    c7=00c3 c8=255a c9=2554 ca=2569 cb=2566 cc=2560 cd=2550 ce=256c cf=00a4 d0=00f0 d1=00d0
    d2=00ca+2 d4=00c8 d5=0131 d6=00cd+3 d9=2518 da=250c db=2588 dc=2584 dd=00a6 de=00cc df=2580
    e0=00d3 e1=00df e2=00d4 e3=00d2 e4=00f5 e5=00d5 e6=00b5 e7=00fe e8=00de e9=00da+2 eb=00d9
    ec=00fd ed=00dd ee=00af ef=00b4 f0=00ad f1=00b1 f2=2017 f3=00be f4=00b6 f5=00a7 f6=00f7
    f7=00b8 f8=00b0 f9=00a8 fa=00b7 fb=00b9 fc=00b3 fd=00b2 fe=25a0 ff=00a0"),
  ("cp852", "
    80=00c7 81=00fc 82=00e9 83=00e2 84=00e4 85=016f 86=0107 87=00e7 88=0142 89=00eb 8a=0150+2
    8c=00ee 8d=0179 8e=00c4 8f=0106 90=00c9 91=0139+2 93=00f4 94=00f6 95=013d+2 97=015a+2
    99=00d6 9a=00dc 9b=0164+2 9d=0141 9e=00d7 9f=010d a0=00e1 a1=00ed a2=00f3 a3=00fa a4=0104+2
    a6=017d+2 a8=0118+2 aa=00ac ab=017a ac=010c ad=015f ae=00ab af=00bb b0=2591+3 b3=2502
    b4=2524 b5=00c1+2 b7=011a b8=015e b9=2563 ba=2551 bb=2557 bc=255d bd=017b+2 bf=2510 c0=2514
    c1=2534 c2=252c c3=251c c4=2500 c5=253c c6=0102+2 c8=255a c9=2554 ca=2569 cb=2566 cc=2560
    cd=2550 ce=256c cf=00a4 d0=0111 d1=0110 d2=010e d3=00cb d4=010f d5=0147 d6=00cd+2 d8=011b
    d9=2518 da=250c db=2588 dc=2584 dd=0162 de=016e df=2580 e0=00d3 e1=00df e2=00d4 e3=0143+2
    e5=0148 e6=0160+2 e8=0154 e9=00da ea=0155 eb=0170 ec=00fd ed=00dd ee=0163 ef=00b4 f0=00ad
    f1=02dd f2=02db f3=02c7 f4=02d8 f5=00a7 f6=00f7 f7=00b8 f8=00b0 f9=00a8 fa=02d9 fb=0171
    fc=0158+2 fe=25a0 ff=00a0"),
  ("cp855", "
    80=0452 81=0402 82=0453 83=0403 84=0451 85=0401 86=0454 87=0404 88=0455 89=0405 8a=0456
    8b=0406 8c=0457 8d=0407 8e=0458 8f=0408 90=0459 91=0409 92=045a 93=040a 94=045b 95=040b
    96=045c 97=040c 98=045e 99=040e 9a=045f 9b=040f 9c=044e 9d=042e 9e=044a 9f=042a a0=0430
    a1=0410 a2=0431 a3=0411 a4=0446 a5=0426 a6=0434 a7=0414 a8=0435 a9=0415 aa=0444 ab=0424
    ac=0433 ad=0413 ae=00ab af=00bb b0=2591+3 b3=2502 b4=2524 b5=0445 b6=0425 b7=0438 b8=0418
    b9=2563 ba=2551 bb=2557 bc=255d bd=0439 be=0419 bf=2510 c0=2514 c1=2534 c2=252c c3=251c
    c4=2500 c5=253c c6=043a c7=041a c8=255a c9=2554 ca=2569 cb=2566 cc=2560 cd=2550 ce=256c
    cf=00a4 d0=043b d1=041b d2=043c d3=041c d4=043d d5=041d d6=043e d7=041e d8=043f d9=2518
    da=250c db=2588 dc=2584 dd=041f de=044f df=2580 e0=042f e1=0440 e2=0420 e3=0441 e4=0421
    e5=0442 e6=0422 e7=0443 e8=0423 e9=0436 ea=0416 eb=0432 ec=0412 ed=044c ee=042c ef=2116
    f0=00ad f1=044b f2=042b f3=0437 f4=0417 f5=0448 f6=0428 f7=044d f8=042d f9=0449 fa=0429
    fb=0447 fc=0427 fd=00a7 fe=25a0 ff=00a0"),
  ("cp856", "
    80=05d0+27 9b= 9c=00a3 9d= 9e=00d7 9f=+10 a9=00ae aa=00ac ab=00bd ac=00bc ad= ae=00ab
    af=00bb b0=2591+3 b3=2502 b4=2524 b5=+3 b8=00a9 b9=2563 ba=2551 bb=2557 bc=255d bd=00a2
    be=00a5 bf=2510 c0=2514 c1=2534 c2=252c c3=251c c4=2500 c5=253c c6=+2 c8=255a c9=2554
    ca=2569 cb=2566 cc=2560 cd=2550 ce=256c cf=00a4 d0=+9 d9=2518 da=250c db=2588 dc=2584
    dd=00a6 de= df=2580 e0=+6 e6=00b5 e7=+7 ee=00af ef=00b4 f0=00ad f1=00b1 f2=2017 f3=00be
    f4=00b6 f5=00a7 f6=00f7 f7=00b8 f8=00b0 f9=00a8 fa=00b7 fb=00b9 fc=00b3 fd=00b2 fe=25a0
    ff=00a0"),
  ("cp857", "
    80=00c7 81=00fc 82=00e9 83=00e2 84=00e4 85=00e0 86=00e5 87=00e7 88=00ea+2 8a=00e8 8b=00ef
    8c=00ee 8d=0131 8e=00c4+2 90=00c9 91=00e6 92=00c6 93=00f4 94=00f6 95=00f2 96=00fb 97=00f9
    98=0130 99=00d6 9a=00dc 9b=00f8 9c=00a3 9d=00d8 9e=015e+2 a0=00e1 a1=00ed a2=00f3 a3=00fa
    a4=00f1 a5=00d1 a6=011e+2 a8=00bf a9=00ae aa=00ac ab=00bd ac=00bc ad=00a1 ae=00ab af=00bb
    b0=2591+3 b3=2502 b4=2524 b5=00c1+2 b7=00c0 b8=00a9 b9=2563 ba=2551 bb=2557 bc=255d bd=00a2
    be=00a5 bf=2510 c0=2514 c1=2534 c2=252c c3=251c c4=2500 c5=253c c6=00e3 c7=00c3 c8=255a
    c9=2554 ca=2569 cb=2566 cc=2560 cd=2550 ce=256c cf=00a4 d0=00ba d1=00aa d2=00ca+2 d4=00c8
    d5= d6=00cd+3 d9=2518 da=250c db=2588 dc=2584 dd=00a6 de=00cc df=2580 e0=00d3 e1=00df
    e2=00d4 e3=00d2 e4=00f5 e5=00d5 e6=00b5 e7= e8=00d7 e9=00da+2 eb=00d9 ed=00ff ee=00af
    ef=00b4 f0=00ad f1=00b1 f2= f3=00be f4=00b6 f5=00a7 f6=00f7 f7=00b8 f8=00b0 f9=00a8 fa=00b7
    fb=00b9 fc=00b3 fd=00b2 fe=25a0 ff=00a0"),
  ("cp858", "
    80=00c7 81=00fc 82=00e9 83=00e2 84=00e4 85=00e0 86=00e5 87=00e7 88=00ea+2 8a=00e8 8b=00ef
    8c=00ee 8d=00ec 8e=00c4+2 90=00c9 91=00e6 92=00c6 93=00f4 94=00f6 95=00f2 96=00fb 97=00f9
    98=00ff 99=00d6 9a=00dc 9b=00f8 9c=00a3 9d=00d8 9e=00d7 9f=0192 a0=00e1 a1=00ed a2=00f3
    a3=00fa a4=00f1 a5=00d1 a6=00aa a7=00ba a8=00bf a9=00ae aa=00ac ab=00bd ac=00bc ad=00a1
    ae=00ab af=00bb b0=2591+3 b3=2502 b4=2524 b5=00c1+2 b7=00c0 b8=00a9 b9=2563 ba=2551 bb=2557
    bc=255d bd=00a2 be=00a5 bf=2510 c0=2514 c1=2534 c2=252c c3=251c c4=2500 c5=253c c6=00e3
    c7=00c3 c8=255a c9=2554 ca=2569 cb=2566 cc=2560 cd=2550 ce=256c cf=00a4 d0=00f0 d1=00d0
    d2=00ca+2 d4=00c8 d5=20ac d6=00cd+3 d9=2518 da=250c db=2588 dc=2584 dd=00a6 de=00cc df=2580
    e0=00d3 e1=00df e2=00d4 e3=00d2 e4=00f5 e5=00d5 e6=00b5 e7=00fe e8=00de e9=00da+2 eb=00d9
    ec=00fd ed=00dd ee=00af ef=00b4 f0=00ad f1=00b1 f2=2017 f3=00be f4=00b6 f5=00a7 f6=00f7
    f7=00b8 f8=00b0 f9=00a8 fa=00b7 fb=00b9 fc=00b3 fd=00b2 fe=25a0 ff=00a0"),
  ("cp860", "
    80=00c7 81=00fc 82=00e9 83=00e2+2 85=00e0 86=00c1 87=00e7 88=00ea 89=00ca 8a=00e8 8b=00cd
    8c=00d4 8d=00ec 8e=00c3 8f=00c2 90=00c9 91=00c0 92=00c8 93=00f4+2 95=00f2 96=00da 97=00f9
    98=00cc 99=00d5 9a=00dc 9b=00a2+2 9d=00d9 9e=20a7 9f=00d3 a0=00e1 a1=00ed a2=00f3 a3=00fa
    a4=00f1 a5=00d1 a6=00aa a7=00ba a8=00bf a9=00d2 aa=00ac ab=00bd ac=00bc ad=00a1 ae=00ab
    af=00bb b0=2591+3 b3=2502 b4=2524 b5=2561+2 b7=2556 b8=2555 b9=2563 ba=2551 bb=2557 bc=255d
    bd=255c be=255b bf=2510 c0=2514 c1=2534 c2=252c c3=251c c4=2500 c5=253c c6=255e+2 c8=255a
    c9=2554 ca=2569 cb=2566 cc=2560 cd=2550 ce=256c cf=2567+2 d1=2564+2 d3=2559 d4=2558
    d5=2552+2 d7=256b d8=256a d9=2518 da=250c db=2588 dc=2584 dd=258c de=2590 df=2580 e0=03b1
    e1=00df e2=0393 e3=03c0 e4=03a3 e5=03c3 e6=00b5 e7=03c4 e8=03a6 e9=0398 ea=03a9 eb=03b4
    ec=221e ed=03c6 ee=03b5 ef=2229 f0=2261 f1=00b1 f2=2265 f3=2264 f4=2320+2 f6=00f7 f7=2248
    f8=00b0 f9=2219 fa=00b7 fb=221a fc=207f fd=00b2 fe=25a0 ff=00a0"),
  ("cp861", "
    80=00c7 81=00fc 82=00e9 83=00e2 84=00e4 85=00e0 86=00e5 87=00e7 88=00ea+2 8a=00e8 8b=00d0
    8c=00f0 8d=00de 8e=00c4+2 90=00c9 91=00e6 92=00c6 93=00f4 94=00f6 95=00fe 96=00fb 97=00dd
    98=00fd 99=00d6 9a=00dc 9b=00f8 9c=00a3 9d=00d8 9e=20a7 9f=0192 a0=00e1 a1=00ed a2=00f3
    a3=00fa a4=00c1 a5=00cd a6=00d3 a7=00da a8=00bf a9=2310 aa=00ac ab=00bd ac=00bc ad=00a1
    ae=00ab af=00bb b0=2591+3 b3=2502 b4=2524 b5=2561+2 b7=2556 b8=2555 b9=2563 ba=2551 bb=2557
    bc=255d bd=255c be=255b bf=2510 c0=2514 c1=2534 c2=252c c3=251c c4=2500 c5=253c c6=255e+2
    c8=255a c9=2554 ca=2569 cb=2566 cc=2560 cd=2550 ce=256c cf=2567+2 d1=2564+2 d3=2559 d4=2558
    d5=2552+2 d7=256b d8=256a d9=2518 da=250c db=2588 dc=2584 dd=258c de=2590 df=2580 e0=03b1
    e1=00df e2=0393 e3=03c0 e4=03a3 e5=03c3 e6=00b5 e7=03c4 e8=03a6 e9=0398 ea=03a9 eb=03b4
    ec=221e ed=03c6 ee=03b5 ef=2229 f0=2261 f1=00b1 f2=2265 f3=2264 f4=2320+2 f6=00f7 f7=2248
    f8=00b0 f9=2219 fa=00b7 fb=221a fc=207f fd=00b2 fe=25a0 ff=00a0"),
  ("cp862", "
    80=05d0+27 9b=00a2+2 9d=00a5 9e=20a7 9f=0192 a0=00e1 a1=00ed a2=00f3 a3=00fa a4=00f1
    a5=00d1 a6=00aa a7=00ba a8=00bf a9=2310 aa=00ac ab=00bd ac=00bc ad=00a1 ae=00ab af=00bb
    b0=2591+3 b3=2502 b4=2524 b5=2561+2 b7=2556 b8=2555 b9=2563 ba=2551 bb=2557 bc=255d bd=255c
    be=255b bf=2510 c0=2514 c1=2534 c2=252c c3=251c c4=2500 c5=253c c6=255e+2 c8=255a c9=2554
    ca=2569 cb=2566 cc=2560 cd=2550 ce=256c cf=2567+2 d1=2564+2 d3=2559 d4=2558 d5=2552+2
    d7=256b d8=256a d9=2518 da=250c db=2588 dc=2584 dd=258c de=2590 df=2580 e0=03b1 e1=00df
    e2=0393 e3=03c0 e4=03a3 e5=03c3 e6=00b5 e7=03c4 e8=03a6 e9=0398 ea=03a9 eb=03b4 ec=221e
    ed=03c6 ee=03b5 ef=2229 f0=2261 f1=00b1 f2=2265 f3=2264 f4=2320+2 f6=00f7 f7=2248 f8=00b0
    f9=2219 fa=00b7 fb=221a fc=207f fd=00b2 fe=25a0 ff=00a0"),
  ("cp863", "
    80=00c7 81=00fc 82=00e9 83=00e2 84=00c2 85=00e0 86=00b6 87=00e7 88=00ea+2 8a=00e8 8b=00ef
    8c=00ee 8d=2017 8e=00c0 8f=00a7 90=00c9 91=00c8 92=00ca 93=00f4 94=00cb 95=00cf 96=00fb
    97=00f9 98=00a4 99=00d4 9a=00dc 9b=00a2+2 9d=00d9 9e=00db 9f=0192 a0=00a6 a1=00b4 a2=00f3
    a3=00fa a4=00a8 a5=00b8 a6=00b3 a7=00af a8=00ce a9=2310 aa=00ac ab=00bd ac=00bc ad=00be
    ae=00ab af=00bb b0=2591+3 b3=2502 b4=2524 b5=2561+2 b7=2556 b8=2555 b9=2563 ba=2551 bb=2557
    bc=255d bd=255c be=255b bf=2510 c0=2514 c1=2534 c2=252c c3=251c c4=2500 c5=253c c6=255e+2
    c8=255a c9=2554 ca=2569 cb=2566 cc=2560 cd=2550 ce=256c cf=2567+2 d1=2564+2 d3=2559 d4=2558
    d5=2552+2 d7=256b d8=256a d9=2518 da=250c db=2588 dc=2584 dd=258c de=2590 df=2580 e0=03b1
    e1=00df e2=0393 e3=03c0 e4=03a3 e5=03c3 e6=00b5 e7=03c4 e8=03a6 e9=0398 ea=03a9 eb=03b4
    ec=221e ed=03c6 ee=03b5 ef=2229 f0=2261 f1=00b1 f2=2265 f3=2264 f4=2320+2 f6=00f7 f7=2248
    f8=00b0 f9=2219 fa=00b7 fb=221a fc=207f fd=00b2 fe=25a0 ff=00a0"),
  ("cp864", "
    25=066a 80=00b0 81=00b7 82=2219+2 84=2592 85=2500 86=2502 87=253c 88=2524 89=252c 8a=251c
    8b=2534 8c=2510 8d=250c 8e=2514 8f=2518 90=03b2 91=221e 92=03c6 93=00b1 94=00bd 95=00bc
    96=2248 97=00ab 98=00bb 99=fef7+2 9b=+2 9d=fefb+2 9f= a1=00ad a2=fe82 a5=fe84 a6=+2
    a8=fe8e+2 aa=fe95 ab=fe99 ac=060c ad=fe9d ae=fea1 af=fea5 b0=0660+10 ba=fed1 bb=061b
    bc=feb1 bd=feb5 be=feb9 bf=061f c0=00a2 c1=fe80+2 c3=fe83 c4=fe85 c5=feca c6=fe8b c7=fe8d
    c8=fe91 c9=fe93 ca=fe97 cb=fe9b cc=fe9f cd=fea3 ce=fea7 cf=fea9 d0=feab d1=fead d2=feaf
    d3=feb3 d4=feb7 d5=febb d6=febf d7=fec1 d8=fec5 d9=fecb da=fecf db=00a6 dc=00ac dd=00f7
    de=00d7 df=fec9 e0=0640 e1=fed3 e2=fed7 e3=fedb e4=fedf e5=fee3 e6=fee7 e7=feeb e8=feed
    e9=feef ea=fef3 eb=febd ec=fecc ed=fece ee=fecd ef=fee1 f0=fe7d f1=0651 f2=fee5 f3=fee9
    f4=feec f5=fef0 f6=fef2 f7=fed0 f8=fed5 f9=fef5+2 fb=fedd fc=fed9 fd=fef1 fe=25a0 ff="),
  ("cp865", "
    80=00c7 81=00fc 82=00e9 83=00e2 84=00e4 85=00e0 86=00e5 87=00e7 88=00ea+2 8a=00e8 8b=00ef
    8c=00ee 8d=00ec 8e=00c4+2 90=00c9 91=00e6 92=00c6 93=00f4 94=00f6 95=00f2 96=00fb 97=00f9
    98=00ff 99=00d6 9a=00dc 9b=00f8 9c=00a3 9d=00d8 9e=20a7 9f=0192 a0=00e1 a1=00ed a2=00f3
    a3=00fa a4=00f1 a5=00d1 a6=00aa a7=00ba a8=00bf a9=2310 aa=00ac ab=00bd ac=00bc ad=00a1
    ae=00ab af=00a4 b0=2591+3 b3=2502 b4=2524 b5=2561+2 b7=2556 b8=2555 b9=2563 ba=2551 bb=2557
    bc=255d bd=255c be=255b bf=2510 c0=2514 c1=2534 c2=252c c3=251c c4=2500 c5=253c c6=255e+2
    c8=255a c9=2554 ca=2569 cb=2566 cc=2560 cd=2550 ce=256c cf=2567+2 d1=2564+2 d3=2559 d4=2558
    d5=2552+2 d7=256b d8=256a d9=2518 da=250c db=2588 dc=2584 dd=258c de=2590 df=2580 e0=03b1
    e1=00df e2=0393 e3=03c0 e4=03a3 e5=03c3 e6=00b5 e7=03c4 e8=03a6 e9=0398 ea=03a9 eb=03b4
    ec=221e ed=03c6 ee=03b5 ef=2229 f0=2261 f1=00b1 f2=2265 f3=2264 f4=2320+2 f6=00f7 f7=2248
    f8=00b0 f9=2219 fa=00b7 fb=221a fc=207f fd=00b2 fe=25a0 ff=00a0"),
  ("cp866", "
    80=0410+48 b0=2591+3 b3=2502 b4=2524 b5=2561+2 b7=2556 b8=2555 b9=2563 ba=2551 bb=2557
    bc=255d bd=255c be=255b bf=2510 c0=2514 c1=2534 c2=252c c3=251c c4=2500 c5=253c c6=255e+2
    c8=255a c9=2554 ca=2569 cb=2566 cc=2560 cd=2550 ce=256c cf=2567+2 d1=2564+2 d3=2559 d4=2558
    d5=2552+2 d7=256b d8=256a d9=2518 da=250c db=2588 dc=2584 dd=258c de=2590 df=2580
    e0=0440+16 f0=0401 f1=0451 f2=0404 f3=0454 f4=0407 f5=0457 f6=040e f7=045e f8=00b0 f9=2219
    fa=00b7 fb=221a fc=2116 fd=00a4 fe=25a0 ff=00a0"),
  ("cp869", "
    80=+6 86=0386 87= 88=00b7 89=00ac 8a=00a6 8b=2018+2 8d=0388 8e=2015 8f=0389+2 91=03aa
    92=038c 93=+2 95=038e 96=03ab 97=00a9 98=038f 99=00b2+2 9b=03ac 9c=00a3 9d=03ad+3 a0=03ca
    a1=0390 a2=03cc+2 a4=0391+7 ab=00bd ac=0398+2 ae=00ab af=00bb b0=2591+3 b3=2502 b4=2524
    b5=039a+4 b9=2563 ba=2551 bb=2557 bc=255d bd=039e+2 bf=2510 c0=2514 c1=2534 c2=252c c3=251c
    c4=2500 c5=253c c6=03a0+2 c8=255a c9=2554 ca=2569 cb=2566 cc=2560 cd=2550 ce=256c cf=03a3+7
    d6=03b1+3 d9=2518 da=250c db=2588 dc=2584 dd=03b4+2 df=2580 e0=03b6+12 ec=03c3 ed=03c2
    ee=03c4 ef=0384 f0=00ad f1=00b1 f2=03c5+3 f5=00a7 f6=03c8 f7=0385 f8=00b0 f9=00a8 fa=03c9
    fb=03cb fc=03b0 fd=03ce fe=25a0 ff=00a0"),
  ("cp874", "
    80=20ac 81=+4 85=2026 86=+11 91=2018+2 93=201c+2 95=2022 96=2013+2 98=+8 a1=0e01+58 db=+4
    df=0e3f+29 fc=+4"),
  ("cp875", "
    04=009c 05=0009 06=0086 07=007f 08=0097 09=008d+2 14=009d 15=0085 16=0008 17=0087 1a=0092
    1b=008f 20=0080+5 25=000a 26=0017 27=001b 28=0088+5 2d=0005+3 30=0090+2 32=0016 33=0093+4
    37=0004 38=0098+4 3c=0014+2 3e=009e 3f=001a 40=0020 41=0391+9 4a=005b 4b=002e 4c=003c
    4d=0028 4e=002b 4f=0021 50=0026 51=039a+8 59=03a3 5a=005d 5b=0024 5c=002a 5d=0029 5e=003b
    5f=005e 60=002d 61=002f 62=03a4+8 6a=007c 6b=002c 6c=0025 6d=005f 6e=003e+2 70=00a8 71=0386
    72=0388+2 74=00a0 75=038a 76=038c 77=038e+2 79=0060 7a=003a 7b=0023 7c=0040 7d=0027 7e=003d
    7f=0022 80=0385 81=0061+9 8a=03b1+6 90=00b0 91=006a+9 9a=03b7+6 a0=00b4 a1=007e a2=0073+8
    aa=03bd+5 af=03c3 b0=00a3 b1=03ac+3 b4=03ca b5=03af b6=03cc+2 b8=03cb b9=03ce ba=03c2
    bb=03c4+5 c0=007b c1=0041+9 ca=00ad cb=03c9 cc=0390 cd=03b0 ce=2018 cf=2015 d0=007d
    d1=004a+9 da=00b1 db=00bd dc=001a dd=0387 de=2019 df=00a6 e0=005c e1=001a e2=0053+8 ea=00b2
    eb=00a7 ec=001a ed=001a ee=00ab+2 f0=0030+10 fa=00b3 fb=00a9 fc=001a fd=001a fe=00bb
    ff=009f"),
  ("hp_roman8", "
    a1=00c0 a2=00c2 a3=00c8 a4=00ca+2 a6=00ce+2 a8=00b4 a9=02cb aa=02c6 ab=00a8 ac=02dc ad=00d9
    ae=00db af=20a4 b0=00af b1=00dd b2=00fd b3=00b0 b4=00c7 b5=00e7 b6=00d1 b7=00f1 b8=00a1
    b9=00bf ba=00a4 bb=00a3 bc=00a5 bd=00a7 be=0192 bf=00a2 c0=00e2 c1=00ea c2=00f4 c3=00fb
    c4=00e1 c5=00e9 c6=00f3 c7=00fa c8=00e0 c9=00e8 ca=00f2 cb=00f9 cc=00e4 cd=00eb ce=00f6
    cf=00fc d0=00c5 d1=00ee d2=00d8 d3=00c6 d4=00e5 d5=00ed d6=00f8 d7=00e6 d8=00c4 d9=00ec
    da=00d6 db=00dc dc=00c9 dd=00ef de=00df df=00d4 e0=00c1 e1=00c3 e2=00e3 e3=00d0 e4=00f0
    e5=00cd e6=00cc e7=00d3 e8=00d2 e9=00d5 ea=00f5 eb=0160+2 ed=00da ee=0178 ef=00ff f0=00de
    f1=00fe f2=00b7 f3=00b5+2 f5=00be f6=2014 f7=00bc+2 f9=00aa fa=00ba fb=00ab fc=25a0 fd=00bb
    fe=00b1 ff="),
  ("iso8859_10", "
    a1=0104 a2=0112 a3=0122 a4=012a a5=0128 a6=0136 a8=013b a9=0110 aa=0160 ab=0166 ac=017d
    ae=016a af=014a b1=0105 b2=0113 b3=0123 b4=012b b5=0129 b6=0137 b8=013c b9=0111 ba=0161
    bb=0167 bc=017e bd=2015 be=016b bf=014b c0=0100 c7=012e c8=010c ca=0118 cc=0116 d1=0145
    d2=014c d7=0168 d9=0172 e0=0101 e7=012f e8=010d ea=0119 ec=0117 f1=0146 f2=014d f7=0169
    f9=0173 ff=0138"),
  ("iso8859_11", "
    a1=0e01+58 db=+4 df=0e3f+29 fc=+4"),
  ("iso8859_13", "
    a1=201d a5=201e a8=00d8 aa=0156 af=00c6 b4=201c b8=00f8 ba=0157 bf=00e6 c0=0104 c1=012e
    c2=0100 c3=0106 c6=0118 c7=0112 c8=010c ca=0179 cb=0116 cc=0122 cd=0136 ce=012a cf=013b
    d0=0160 d1=0143 d2=0145 d4=014c d8=0172 d9=0141 da=015a db=016a dd=017b de=017d e0=0105
    e1=012f e2=0101 e3=0107 e6=0119 e7=0113 e8=010d ea=017a eb=0117 ec=0123 ed=0137 ee=012b
    ef=013c f0=0161 f1=0144 f2=0146 f4=014d f8=0173 f9=0142 fa=015b fb=016b fd=017c fe=017e
    ff=2019"),
  ("iso8859_14", "
    a1=1e02+2 a4=010a+2 a6=1e0a a8=1e80 aa=1e82 ab=1e0b ac=1ef2 af=0178 b0=1e1e+2 b2=0120+2
    b4=1e40+2 b7=1e56 b8=1e81 b9=1e57 ba=1e83 bb=1e60 bc=1ef3 bd=1e84+2 bf=1e61 d0=0174 d7=1e6a
    de=0176 f0=0175 f7=1e6b fe=0177"),
  ("iso8859_15", "
    a4=20ac a6=0160 a8=0161 b4=017d b8=017e bc=0152+2 be=0178"),
  ("iso8859_16", "
    a1=0104+2 a3=0141 a4=20ac a5=201e a6=0160 a8=0161 aa=0218 ac=0179 ae=017a+2 b2=010c b3=0142
    b4=017d b5=201d b8=017e b9=010d ba=0219 bc=0152+2 be=0178 bf=017c c3=0102 c5=0106 d0=0110
    d1=0143 d5=0150 d7=015a d8=0170 dd=0118 de=021a e3=0103 e5=0107 f0=0111 f1=0144 f5=0151
    f7=015b f8=0171 fd=0119 fe=021b"),
  ("iso8859_2", "
    a1=0104 a2=02d8 a3=0141 a5=013d a6=015a a9=0160 aa=015e ab=0164 ac=0179 ae=017d af=017b
    b1=0105 b2=02db b3=0142 b5=013e b6=015b b7=02c7 b9=0161 ba=015f bb=0165 bc=017a bd=02dd
    be=017e bf=017c c0=0154 c3=0102 c5=0139 c6=0106 c8=010c ca=0118 cc=011a cf=010e d0=0110
    d1=0143 d2=0147 d5=0150 d8=0158 d9=016e db=0170 de=0162 e0=0155 e3=0103 e5=013a e6=0107
    e8=010d ea=0119 ec=011b ef=010f f0=0111 f1=0144 f2=0148 f5=0151 f8=0159 f9=016f fb=0171
    fe=0163 ff=02d9"),
  ("iso8859_3", "
    a1=0126 a2=02d8 a5= a6=0124 a9=0130 aa=015e ab=011e ac=0134 ae= af=017b b1=0127 b6=0125
    b9=0131 ba=015f bb=011f bc=0135 be= bf=017c c3= c5=010a c6=0108 d0= d5=0120 d8=011c dd=016c
    de=015c e3= e5=010b e6=0109 f0= f5=0121 f8=011d fd=016d fe=015d ff=02d9"),
  ("iso8859_4", "
    a1=0104 a2=0138 a3=0156 a5=0128 a6=013b a9=0160 aa=0112 ab=0122 ac=0166 ae=017d b1=0105
    b2=02db b3=0157 b5=0129 b6=013c b7=02c7 b9=0161 ba=0113 bb=0123 bc=0167 bd=014a be=017e
    bf=014b c0=0100 c7=012e c8=010c ca=0118 cc=0116 cf=012a d0=0110 d1=0145 d2=014c d3=0136
    d9=0172 dd=0168 de=016a e0=0101 e7=012f e8=010d ea=0119 ec=0117 ef=012b f0=0111 f1=0146
    f2=014d f3=0137 f9=0173 fd=0169 fe=016b ff=02d9"),
  ("iso8859_5", "
    a1=0401+12 ae=040e+66 f0=2116 f1=0451+12 fd=00a7 fe=045e+2"),
  ("iso8859_6", "
    a1=+3 a5=+7 ac=060c ae=+13 bb=061b bc=+3 bf=061f c0= c1=0621+26 db=+5 e0=0640+19 f3=+13"),
  ("iso8859_7", "
    a1=2018+2 a4=20ac a5=20af aa=037a ae= af=2015 b4=0384+3 b8=0388+3 bc=038c be=038e+20 d2=
    d3=03a3+44 ff="),
  ("iso8859_8", "
    a1= aa=00d7 ba=00f7 bf=+32 df=2017 e0=05d0+27 fb=+2 fd=200e+2 ff="),
  ("iso8859_9", "
    d0=011e dd=0130 de=015e f0=011f fd=0131 fe=015f"),
  ("koi8_r", "
    80=2500 81=2502 82=250c 83=2510 84=2514 85=2518 86=251c 87=2524 88=252c 89=2534 8a=253c
    8b=2580 8c=2584 8d=2588 8e=258c 8f=2590+4 93=2320 94=25a0 95=2219+2 97=2248 98=2264+2
    9a=00a0 9b=2321 9c=00b0 9d=00b2 9e=00b7 9f=00f7 a0=2550+3 a3=0451 a4=2553+15 b3=0401
    b4=2562+11 bf=00a9 c0=044e c1=0430+2 c3=0446 c4=0434+2 c6=0444 c7=0433 c8=0445 c9=0438+8
    d1=044f d2=0440+4 d6=0436 d7=0432 d8=044c d9=044b da=0437 db=0448 dc=044d dd=0449 de=0447
    df=044a e0=042e e1=0410+2 e3=0426 e4=0414+2 e6=0424 e7=0413 e8=0425 e9=0418+8 f1=042f
    f2=0420+4 f6=0416 f7=0412 f8=042c f9=042b fa=0417 fb=0428 fc=042d fd=0429 fe=0427 ff=042a"),
  ("koi8_t", "
    80=049b 81=0493 82=201a 83=0492 84=201e 85=2026 86=2020+2 88= 89=2030 8a=04b3 8b=2039
    8c=04b2 8d=04b7 8e=04b6 8f= 90=049a 91=2018+2 93=201c+2 95=2022 96=2013+2 98= 99=2122 9a=
    9b=203a 9c=+5 a1=04ef a2=04ee a3=0451 a5=04e3 a8=+3 af= b3=0401 b4= b5=04e2 b8= b9=2116 ba=
    bc=+3 bf=00a9 c0=044e c1=0430+2 c3=0446 c4=0434+2 c6=0444 c7=0433 c8=0445 c9=0438+8 d1=044f
    d2=0440+4 d6=0436 d7=0432 d8=044c d9=044b da=0437 db=0448 dc=044d dd=0449 de=0447 df=044a
    e0=042e e1=0410+2 e3=0426 e4=0414+2 e6=0424 e7=0413 e8=0425 e9=0418+8 f1=042f f2=0420+4
    f6=0416 f7=0412 f8=042c f9=042b fa=0417 fb=0428 fc=042d fd=0429 fe=0427 ff=042a"),
  ("koi8_u", "
    80=2500 81=2502 82=250c 83=2510 84=2514 85=2518 86=251c 87=2524 88=252c 89=2534 8a=253c
    8b=2580 8c=2584 8d=2588 8e=258c 8f=2590+4 93=2320 94=25a0 95=2219+2 97=2248 98=2264+2
    9a=00a0 9b=2321 9c=00b0 9d=00b2 9e=00b7 9f=00f7 a0=2550+3 a3=0451 a4=0454 a5=2554 a6=0456+2
    a8=2557+5 ad=0491 ae=255d+5 b3=0401 b4=0404 b5=2563 b6=0406+2 b8=2566+5 bd=0490 be=256c
    bf=00a9 c0=044e c1=0430+2 c3=0446 c4=0434+2 c6=0444 c7=0433 c8=0445 c9=0438+8 d1=044f
    d2=0440+4 d6=0436 d7=0432 d8=044c d9=044b da=0437 db=0448 dc=044d dd=0449 de=0447 df=044a
    e0=042e e1=0410+2 e3=0426 e4=0414+2 e6=0424 e7=0413 e8=0425 e9=0418+8 f1=042f f2=0420+4
    f6=0416 f7=0412 f8=042c f9=042b fa=0417 fb=0428 fc=042d fd=0429 fe=0427 ff=042a"),
  ("kz1048", "
    80=0402+2 82=201a 83=0453 84=201e 85=2026 86=2020+2 88=20ac 89=2030 8a=0409 8b=2039 8c=040a
    8d=049a 8e=04ba 8f=040f 90=0452 91=2018+2 93=201c+2 95=2022 96=2013+2 98= 99=2122 9a=0459
    9b=203a 9c=045a 9d=049b 9e=04bb 9f=045f a1=04b0+2 a3=04d8 a5=04e8 a8=0401 aa=0492 af=04ae
    b2=0406 b3=0456 b4=04e9 b8=0451 b9=2116 ba=0493 bc=04d9 bd=04a2+2 bf=04af c0=0410+64"),
  ("mac_arabic", "
    80=00c4 81=00a0 82=00c7 83=00c9 84=00d1 85=00d6 86=00dc 87=00e1 88=00e0 89=00e2 8a=00e4
    8b=06ba 8c=00ab 8d=00e7 8e=00e9 8f=00e8 90=00ea+2 92=00ed 93=2026 94=00ee+2 96=00f1 97=00f3
    98=00bb 99=00f4 9a=00f6+2 9c=00fa 9d=00f9 9e=00fb+2 a0=0020+5 a5=066a a6=0026+6 ac=060c
    ad=002d+3 b0=0660+10 ba=003a bb=061b bc=003c+3 bf=061f c0=274a c1=0621+26 db=005b+5
    e0=0640+19 f3=067e f4=0679 f5=0686 f6=06d5 f7=06a4 f8=06af f9=0688 fa=0691 fb=007b+3
    fe=0698 ff=06d2"),
  ("mac_croatian", "
    80=00c4+2 82=00c7 83=00c9 84=00d1 85=00d6 86=00dc 87=00e1 88=00e0 89=00e2 8a=00e4 8b=00e3
    8c=00e5 8d=00e7 8e=00e9 8f=00e8 90=00ea+2 92=00ed 93=00ec 94=00ee+2 96=00f1 97=00f3 98=00f2
    99=00f4 9a=00f6 9b=00f5 9c=00fa 9d=00f9 9e=00fb+2 a0=2020 a1=00b0 a4=00a7 a5=2022 a6=00b6
    a7=00df a8=00ae a9=0160 aa=2122 ab=00b4 ac=00a8 ad=2260 ae=017d af=00d8 b0=221e b2=2264+2
    b4=2206 b6=2202 b7=2211 b8=220f b9=0161 ba=222b bb=00aa bc=00ba bd=03a9 be=017e bf=00f8
    c0=00bf c1=00a1 c2=00ac c3=221a c4=0192 c5=2248 c6=0106 c7=00ab c8=010c c9=2026 ca=00a0
    cb=00c0 cc=00c3 cd=00d5 ce=0152+2 d0=0110 d1=2014 d2=201c+2 d4=2018+2 d6=00f7 d7=25ca
    d8=f8ff d9=00a9 da=2044 db=20ac dc=2039+2 de=00c6 df=00bb e0=2013 e1=00b7 e2=201a e3=201e
    e4=2030 e5=00c2 e6=0107 e7=00c1 e8=010d e9=00c8 ea=00cd+3 ed=00cc ee=00d3+2 f0=0111 f1=00d2
    f2=00da+2 f4=00d9 f5=0131 f6=02c6 f7=02dc f8=00af f9=03c0 fa=00cb fb=02da fc=00b8 fd=00ca
    fe=00e6 ff=02c7"),
  ("mac_cyrillic", "
    80=0410+32 a0=2020 a1=00b0 a2=0490 a4=00a7 a5=2022 a6=00b6 a7=0406 a8=00ae aa=2122 ab=0402
    ac=0452 ad=2260 ae=0403 af=0453 b0=221e b2=2264+2 b4=0456 b6=0491 b7=0408 b8=0404 b9=0454
    ba=0407 bb=0457 bc=0409 bd=0459 be=040a bf=045a c0=0458 c1=0405 c2=00ac c3=221a c4=0192
    c5=2248 c6=2206 c7=00ab c8=00bb c9=2026 ca=00a0 cb=040b cc=045b cd=040c ce=045c cf=0455
    d0=2013+2 d2=201c+2 d4=2018+2 d6=00f7 d7=201e d8=040e d9=045e da=040f db=045f dc=2116
    dd=0401 de=0451 df=044f e0=0430+31 ff=20ac"),
  ("mac_farsi", "
    80=00c4 81=00a0 82=00c7 83=00c9 84=00d1 85=00d6 86=00dc 87=00e1 88=00e0 89=00e2 8a=00e4
    8b=06ba 8c=00ab 8d=00e7 8e=00e9 8f=00e8 90=00ea+2 92=00ed 93=2026 94=00ee+2 96=00f1 97=00f3
    98=00bb 99=00f4 9a=00f6+2 9c=00fa 9d=00f9 9e=00fb+2 a0=0020+5 a5=066a a6=0026+6 ac=060c
    ad=002d+3 b0=06f0+10 ba=003a bb=061b bc=003c+3 bf=061f c0=274a c1=0621+26 db=005b+5
    e0=0640+19 f3=067e f4=0679 f5=0686 f6=06d5 f7=06a4 f8=06af f9=0688 fa=0691 fb=007b+3
    fe=0698 ff=06d2"),
  ("mac_greek", "
    80=00c4 81=00b9 82=00b2 83=00c9 84=00b3 85=00d6 86=00dc 87=0385 88=00e0 89=00e2 8a=00e4
    8b=0384 8c=00a8 8d=00e7 8e=00e9 8f=00e8 90=00ea+2 92=00a3 93=2122 94=00ee+2 96=2022 97=00bd
    98=2030 99=00f4 9a=00f6 9b=00a6 9c=20ac 9d=00f9 9e=00fb+2 a0=2020 a1=0393+2 a3=0398 a4=039b
    a5=039e a6=03a0 a7=00df a8=00ae aa=03a3 ab=03aa ac=00a7 ad=2260 ae=00b0 af=00b7 b0=0391
    b2=2264+2 b4=00a5 b5=0392 b6=0395+3 b9=0399+2 bb=039c bc=03a6 bd=03ab be=03a8+2 c0=03ac
    c1=039d c2=00ac c3=039f c4=03a1 c5=2248 c6=03a4 c7=00ab c8=00bb c9=2026 ca=00a0 cb=03a5
    cc=03a7 cd=0386 ce=0388 cf=0153 d0=2013 d1=2015 d2=201c+2 d4=2018+2 d6=00f7 d7=0389+2
    d9=038c da=038e db=03ad+3 de=03cc df=038f e0=03cd e1=03b1+2 e3=03c8 e4=03b4+2 e6=03c6
    e7=03b3 e8=03b7 e9=03b9 ea=03be eb=03ba+4 ef=03bf+2 f1=03ce f2=03c1 f3=03c3+2 f5=03b8
    f6=03c9 f7=03c2 f8=03c7 f9=03c5 fa=03b6 fb=03ca+2 fd=0390 fe=03b0 ff=00ad"),
  ("mac_iceland", "
    80=00c4+2 82=00c7 83=00c9 84=00d1 85=00d6 86=00dc 87=00e1 88=00e0 89=00e2 8a=00e4 8b=00e3
    8c=00e5 8d=00e7 8e=00e9 8f=00e8 90=00ea+2 92=00ed 93=00ec 94=00ee+2 96=00f1 97=00f3 98=00f2
    99=00f4 9a=00f6 9b=00f5 9c=00fa 9d=00f9 9e=00fb+2 a0=00dd a1=00b0 a4=00a7 a5=2022 a6=00b6
    a7=00df a8=00ae aa=2122 ab=00b4 ac=00a8 ad=2260 ae=00c6 af=00d8 b0=221e b2=2264+2 b4=00a5
    b6=2202 b7=2211 b8=220f b9=03c0 ba=222b bb=00aa bc=00ba bd=03a9 be=00e6 bf=00f8 c0=00bf
    c1=00a1 c2=00ac c3=221a c4=0192 c5=2248 c6=2206 c7=00ab c8=00bb c9=2026 ca=00a0 cb=00c0
    cc=00c3 cd=00d5 ce=0152+2 d0=2013+2 d2=201c+2 d4=2018+2 d6=00f7 d7=25ca d8=00ff d9=0178
    da=2044 db=20ac dc=00d0 dd=00f0 df=00fe e0=00fd e1=00b7 e2=201a e3=201e e4=2030 e5=00c2
    e6=00ca e7=00c1 e8=00cb e9=00c8 ea=00cd+3 ed=00cc ee=00d3+2 f0=f8ff f1=00d2 f2=00da+2
    f4=00d9 f5=0131 f6=02c6 f7=02dc f8=00af f9=02d8+3 fc=00b8 fd=02dd fe=02db ff=02c7"),
  ("mac_latin2", "
    80=00c4 81=0100+2 83=00c9 84=0104 85=00d6 86=00dc 87=00e1 88=0105 89=010c 8a=00e4 8b=010d
    8c=0106+2 8e=00e9 8f=0179+2 91=010e 92=00ed 93=010f 94=0112+2 96=0116 97=00f3 98=0117
    99=00f4 9a=00f6 9b=00f5 9c=00fa 9d=011a+2 9f=00fc a0=2020 a1=00b0 a2=0118 a4=00a7 a5=2022
    a6=00b6 a7=00df a8=00ae aa=2122 ab=0119 ac=00a8 ad=2260 ae=0123 af=012e+2 b1=012a b2=2264+2
    b4=012b b5=0136 b6=2202 b7=2211 b8=0142 b9=013b+4 bd=0139+2 bf=0145+2 c1=0143 c2=00ac
    c3=221a c4=0144 c5=0147 c6=2206 c7=00ab c8=00bb c9=2026 ca=00a0 cb=0148 cc=0150 cd=00d5
    ce=0151 cf=014c d0=2013+2 d2=201c+2 d4=2018+2 d6=00f7 d7=25ca d8=014d d9=0154+2 db=0158
    dc=2039+2 de=0159 df=0156+2 e1=0160 e2=201a e3=201e e4=0161 e5=015a+2 e7=00c1 e8=0164+2
    ea=00cd eb=017d+2 ed=016a ee=00d3+2 f0=016b f1=016e f2=00da f3=016f+5 f8=00dd f9=00fd
    fa=0137 fb=017b fc=0141 fd=017c fe=0122 ff=02c7"),
  ("mac_roman", "
    80=00c4+2 82=00c7 83=00c9 84=00d1 85=00d6 86=00dc 87=00e1 88=00e0 89=00e2 8a=00e4 8b=00e3
    8c=00e5 8d=00e7 8e=00e9 8f=00e8 90=00ea+2 92=00ed 93=00ec 94=00ee+2 96=00f1 97=00f3 98=00f2
    99=00f4 9a=00f6 9b=00f5 9c=00fa 9d=00f9 9e=00fb+2 a0=2020 a1=00b0 a4=00a7 a5=2022 a6=00b6
    a7=00df a8=00ae aa=2122 ab=00b4 ac=00a8 ad=2260 ae=00c6 af=00d8 b0=221e b2=2264+2 b4=00a5
    b6=2202 b7=2211 b8=220f b9=03c0 ba=222b bb=00aa bc=00ba bd=03a9 be=00e6 bf=00f8 c0=00bf
    c1=00a1 c2=00ac c3=221a c4=0192 c5=2248 c6=2206 c7=00ab c8=00bb c9=2026 ca=00a0 cb=00c0
    cc=00c3 cd=00d5 ce=0152+2 d0=2013+2 d2=201c+2 d4=2018+2 d6=00f7 d7=25ca d8=00ff d9=0178
    da=2044 db=20ac dc=2039+2 de=fb01+2 e0=2021 e1=00b7 e2=201a e3=201e e4=2030 e5=00c2 e6=00ca
    e7=00c1 e8=00cb e9=00c8 ea=00cd+3 ed=00cc ee=00d3+2 f0=f8ff f1=00d2 f2=00da+2 f4=00d9
    f5=0131 f6=02c6 f7=02dc f8=00af f9=02d8+3 fc=00b8 fd=02dd fe=02db ff=02c7"),
  ("mac_romanian", "
    80=00c4+2 82=00c7 83=00c9 84=00d1 85=00d6 86=00dc 87=00e1 88=00e0 89=00e2 8a=00e4 8b=00e3
    8c=00e5 8d=00e7 8e=00e9 8f=00e8 90=00ea+2 92=00ed 93=00ec 94=00ee+2 96=00f1 97=00f3 98=00f2
    99=00f4 9a=00f6 9b=00f5 9c=00fa 9d=00f9 9e=00fb+2 a0=2020 a1=00b0 a4=00a7 a5=2022 a6=00b6
    a7=00df a8=00ae aa=2122 ab=00b4 ac=00a8 ad=2260 ae=0102 af=0218 b0=221e b2=2264+2 b4=00a5
    b6=2202 b7=2211 b8=220f b9=03c0 ba=222b bb=00aa bc=00ba bd=03a9 be=0103 bf=0219 c0=00bf
    c1=00a1 c2=00ac c3=221a c4=0192 c5=2248 c6=2206 c7=00ab c8=00bb c9=2026 ca=00a0 cb=00c0
    cc=00c3 cd=00d5 ce=0152+2 d0=2013+2 d2=201c+2 d4=2018+2 d6=00f7 d7=25ca d8=00ff d9=0178
    da=2044 db=20ac dc=2039+2 de=021a+2 e0=2021 e1=00b7 e2=201a e3=201e e4=2030 e5=00c2 e6=00ca
    e7=00c1 e8=00cb e9=00c8 ea=00cd+3 ed=00cc ee=00d3+2 f0=f8ff f1=00d2 f2=00da+2 f4=00d9
    f5=0131 f6=02c6 f7=02dc f8=00af f9=02d8+3 fc=00b8 fd=02dd fe=02db ff=02c7"),
  ("mac_turkish", "
    80=00c4+2 82=00c7 83=00c9 84=00d1 85=00d6 86=00dc 87=00e1 88=00e0 89=00e2 8a=00e4 8b=00e3
    8c=00e5 8d=00e7 8e=00e9 8f=00e8 90=00ea+2 92=00ed 93=00ec 94=00ee+2 96=00f1 97=00f3 98=00f2
    99=00f4 9a=00f6 9b=00f5 9c=00fa 9d=00f9 9e=00fb+2 a0=2020 a1=00b0 a4=00a7 a5=2022 a6=00b6
    a7=00df a8=00ae aa=2122 ab=00b4 ac=00a8 ad=2260 ae=00c6 af=00d8 b0=221e b2=2264+2 b4=00a5
    b6=2202 b7=2211 b8=220f b9=03c0 ba=222b bb=00aa bc=00ba bd=03a9 be=00e6 bf=00f8 c0=00bf
    c1=00a1 c2=00ac c3=221a c4=0192 c5=2248 c6=2206 c7=00ab c8=00bb c9=2026 ca=00a0 cb=00c0
    cc=00c3 cd=00d5 ce=0152+2 d0=2013+2 d2=201c+2 d4=2018+2 d6=00f7 d7=25ca d8=00ff d9=0178
    da=011e+2 dc=0130+2 de=015e+2 e0=2021 e1=00b7 e2=201a e3=201e e4=2030 e5=00c2 e6=00ca
    e7=00c1 e8=00cb e9=00c8 ea=00cd+3 ed=00cc ee=00d3+2 f0=f8ff f1=00d2 f2=00da+2 f4=00d9
    f5=f8a0 f6=02c6 f7=02dc f8=00af f9=02d8+3 fc=00b8 fd=02dd fe=02db ff=02c7"),
  ("palmos", "
    80=20ac 82=201a 83=0192 84=201e 85=2026 86=2020+2 88=02c6 89=2030 8a=0160 8b=2039 8c=0152
    8d=2666 8e=2663 8f=2665 90=2660 91=2018+2 93=201c+2 95=2022 96=2013+2 98=02dc 99=2122
    9a=0161 9c=0153 9f=0178"),
  ("ptcp154", "
    80=0496 81=0492 82=04ee 83=0493 84=201e 85=2026 86=04b6 87=04ae 88=04b2 89=04af 8a=04a0
    8b=04e2 8c=04a2 8d=049a 8e=04ba 8f=04b8 90=0497 91=2018+2 93=201c+2 95=2022 96=2013+2
    98=04b3 99=04b7 9a=04a1 9b=04e3 9c=04a3 9d=049b 9e=04bb 9f=04b9 a1=040e a2=045e a3=0408
    a4=04e8 a5=0498 a6=04b0 a8=0401 aa=04d8 ad=04ef af=049c b1=04b1 b2=0406 b3=0456 b4=0499
    b5=04e9 b8=0451 b9=2116 ba=04d9 bc=0458 bd=04aa+2 bf=049d c0=0410+64"),
  ("tis_620", "
    a0= a1=0e01+58 db=+4 df=0e3f+29 fc=+4")]

end Bindery.Format.Charset
