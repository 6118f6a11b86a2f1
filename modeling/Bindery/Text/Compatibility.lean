import Bindery.Text.Normal

/-!
# The form in which names are compared

Two identifiers are the same name if they are spelled alike once every character that stands for
others, such as a ligature, a full-width letter or a letter of mathematics, is replaced by these and
the text is composed.
-/

namespace Bindery.Text

/-- Code points of characters, or of runs of them, with what the first one stands for, all in
hexadecimal digits. What stands for the others of a run follows it in order. -/
def compatibilityEntries : String := "
  00aa=0061 00b5=03bc 00ba=006f 0132=0049+004a 0133=0069+006a 013f=004c+00b7 0140=006c+00b7
  0149=02bc+006e 017f=0073 01c4=0044+005a+030c 01c5=0044+007a+030c 01c6=0064+007a+030c
  01c7=004c+004a 01c8=004c+006a 01c9=006c+006a 01ca=004e+004a 01cb=004e+006a 01cc=006e+006a
  01f1=0044+005a 01f2=0044+007a 01f3=0064+007a 02b0=0068 02b1=0266 02b2=006a 02b3=0072 02b4=0279
  02b5=027b 02b6=0281 02b7=0077 02b8=0079 02e0=0263 02e1=006c 02e2=0073 02e3=0078 02e4=0295
  03d0=03b2 03d1=03b8 03d2=03a5 03d3=03a5+0301 03d4=03a5+0308 03d5=03c6 03d6=03c0 03f0=03ba
  03f1-03f2=03c1 03f4=0398 03f5=03b5 03f9=03a3 0587=0565+0582 0675=0627+0674 0676=0648+0674
  0677=06c7+0674 0678=064a+0674 0e33=0e4d+0e32 0eb3=0ecd+0eb2 0edc=0eab+0e99 0edd=0eab+0ea1
  0f77=0fb2+0f71+0f80 0f79=0fb3+0f71+0f80 10fc=10dc 1d2c=0041 1d2d=00c6 1d2e=0042 1d30-1d31=0044
  1d32=018e 1d33-1d3a=0047 1d3c=004f 1d3d=0222 1d3e=0050 1d3f=0052 1d40-1d41=0054 1d42=0057
  1d43=0061 1d44-1d45=0250 1d46=1d02 1d47=0062 1d48-1d49=0064 1d4a=0259 1d4b-1d4c=025b 1d4d=0067
  1d4f=006b 1d50=006d 1d51=014b 1d52=006f 1d53=0254 1d54-1d55=1d16 1d56=0070 1d57-1d58=0074
  1d59=1d1d 1d5a=026f 1d5b=0076 1d5c=1d25 1d5d-1d5f=03b2 1d60-1d61=03c6 1d62=0069 1d63=0072
  1d64-1d65=0075 1d66-1d67=03b2 1d68=03c1 1d69-1d6a=03c6 1d78=043d 1d9b=0252 1d9c=0063 1d9d=0255
  1d9e=00f0 1d9f=025c 1da0=0066 1da1=025f 1da2=0261 1da3=0265 1da4-1da6=0268 1da7=1d7b 1da8=029d
  1da9=026d 1daa=1d85 1dab=029f 1dac=0271 1dad=0270 1dae-1db1=0272 1db2=0278 1db3-1db4=0282
  1db5=01ab 1db6-1db7=0289 1db8=1d1c 1db9-1dba=028b 1dbb=007a 1dbc-1dbe=0290 1dbf=03b8
  1e9a=0061+02be 1e9b=0073+0307 2071=0069 207f=006e 2090=0061 2091=0065 2092=006f 2093=0078
  2094=0259 2095=0068 2096-2099=006b 209a=0070 209b-209c=0073 2102=0043 2107=0190 210a=0067
  210b=0048 210c=0048 210d=0048 210e=0068 210f=0127 2110=0049 2111=0049 2112=004c 2113=006c
  2115=004e 2119-211b=0050 211c=0052 211d=0052 2124=005a 2128=005a 212c-212d=0042 212f=0065
  2130-2131=0045 2133=004d 2134=006f 2135-2138=05d0 2139=0069 213c=03c0 213d=03b3 213e=0393
  213f=03a0 2145=0044 2146-2147=0064 2148-2149=0069 2160=0049 2161=0049+0049 2162=0049+0049+0049
  2163=0049+0056 2164=0056 2165=0056+0049 2166=0056+0049+0049 2167=0056+0049+0049+0049
  2168=0049+0058 2169=0058 216a=0058+0049 216b=0058+0049+0049 216c=004c 216d-216e=0043 216f=004d
  2170=0069 2171=0069+0069 2172=0069+0069+0069 2173=0069+0076 2174=0076 2175=0076+0069
  2176=0076+0069+0069 2177=0076+0069+0069+0069 2178=0069+0078 2179=0078 217a=0078+0069
  217b=0078+0069+0069 217c=006c 217d-217e=0063 217f=006d 2c7c=006a 2c7d=0056 2d6f=2d61 3038=5341
  3039-303a=5344 309f=3088+308a 30ff=30b3+30c8 3131-3132=1100 3133=11aa 3134=1102 3135-3136=11ac
  3137-3139=1103 313a-313f=11b0 3140=111a 3141-3143=1106 3144=1121 3145-314e=1109 314f-3163=1161
  3164=1160 3165-3166=1114 3167-3168=11c7 3169=11cc 316a=11ce 316b=11d3 316c=11d7 316d=11d9
  316e=111c 316f=11dd 3170=11df 3171-3172=111d 3173=1120 3174-3175=1122 3176=1127 3177=1129
  3178-317c=112b 317d=1132 317e=1136 317f=1140 3180=1147 3181=114c 3182-3183=11f1 3184-3186=1157
  3187-3188=1184 3189=1188 318a-318b=1191 318c=1194 318d=119e 318e=11a1 a69c=044a a69d=044c
  a770=a76f a7f2=0043 a7f3=0046 a7f4=0051 a7f8=0126 a7f9=0153 ab5c=a727 ab5d=ab37 ab5e=026b
  ab5f=ab52 ab69=028d fb00=0066+0066 fb01=0066+0069 fb02=0066+006c fb03=0066+0066+0069
  fb04=0066+0066+006c fb05=0073+0074 fb06=0073+0074 fb13=0574+0576 fb14=0574+0565 fb15=0574+056b
  fb16=057e+0576 fb17=0574+056d fb20=05e2 fb21=05d0 fb22-fb23=05d3 fb24-fb26=05db fb27=05e8
  fb28=05ea fb4f=05d0+05dc fb50=0671 fb51=0671 fb52=067b fb53=067b fb54=067b fb55=067b fb56=067e
  fb57=067e fb58=067e fb59=067e fb5a=0680 fb5b=0680 fb5c=0680 fb5d=0680 fb5e=067a fb5f=067a
  fb60=067a fb61=067a fb62=067f fb63=067f fb64=067f fb65=067f fb66=0679 fb67=0679 fb68=0679
  fb69=0679 fb6a=06a4 fb6b=06a4 fb6c=06a4 fb6d=06a4 fb6e=06a6 fb6f=06a6 fb70=06a6 fb71=06a6
  fb72=0684 fb73=0684 fb74=0684 fb75=0684 fb76=0683 fb77=0683 fb78=0683 fb79=0683 fb7a=0686
  fb7b=0686 fb7c=0686 fb7d-fb7e=0686 fb7f=0687 fb80=0687 fb81=0687 fb82=068d fb83=068d fb84=068c
  fb85=068c fb86=068e fb87=068e fb88=0688 fb89=0688 fb8a=0698 fb8b=0698 fb8c=0691 fb8d=0691
  fb8e=06a9 fb8f=06a9 fb90=06a9 fb91=06a9 fb92=06af fb93=06af fb94=06af fb95=06af fb96=06b3
  fb97=06b3 fb98=06b3 fb99=06b3 fb9a=06b1 fb9b=06b1 fb9c=06b1 fb9d=06b1 fb9e=06ba fb9f-fba0=06ba
  fba1=06bb fba2=06bb fba3=06bb fba4=06d5+0654 fba5=06d5+0654 fba6=06c1 fba7=06c1 fba8=06c1
  fba9=06c1 fbaa=06be fbab=06be fbac=06be fbad=06be fbae=06d2 fbaf=06d2 fbb0=06d2+0654
  fbb1=06d2+0654 fbd3=06ad fbd4=06ad fbd5=06ad fbd6=06ad fbd7=06c7 fbd8=06c7 fbd9=06c6 fbda=06c6
  fbdb=06c8 fbdc=06c8 fbdd=06c7+0674 fbde=06cb fbdf=06cb fbe0=06c5 fbe1=06c5 fbe2=06c9 fbe3=06c9
  fbe4=06d0 fbe5=06d0 fbe6=06d0 fbe7=06d0 fbe8=0649 fbe9=0649 fbea=064a+0654+0627
  fbeb=064a+0654+0627 fbec=064a+0654+06d5 fbed=064a+0654+06d5 fbee=064a+0654+0648
  fbef=064a+0654+0648 fbf0=064a+0654+06c7 fbf1=064a+0654+06c7 fbf2=064a+0654+06c6
  fbf3=064a+0654+06c6 fbf4=064a+0654+06c8 fbf5=064a+0654+06c8 fbf6=064a+0654+06d0
  fbf7=064a+0654+06d0 fbf8=064a+0654+06d0 fbf9=064a+0654+0649 fbfa=064a+0654+0649
  fbfb=064a+0654+0649 fbfc=06cc fbfd=06cc fbfe=06cc fbff=06cc fc00=064a+0654+062c
  fc01=064a+0654+062d fc02=064a+0654+0645 fc03=064a+0654+0649 fc04=064a+0654+064a fc05=0628+062c
  fc06=0628+062d fc07=0628+062e fc08=0628+0645 fc09=0628+0649 fc0a=0628+064a fc0b=062a+062c
  fc0c=062a+062d fc0d=062a+062e fc0e=062a+0645 fc0f=062a+0649 fc10=062a+064a fc11=062b+062c
  fc12=062b+0645 fc13=062b+0649 fc14=062b+064a fc15=062c+062d fc16=062c+0645 fc17=062d+062c
  fc18=062d+0645 fc19=062e+062c fc1a=062e+062d fc1b=062e+0645 fc1c=0633+062c fc1d=0633+062d
  fc1e=0633+062e fc1f=0633+0645 fc20=0635+062d fc21=0635+0645 fc22=0636+062c fc23=0636+062d
  fc24=0636+062e fc25=0636+0645 fc26=0637+062d fc27=0637+0645 fc28=0638+0645 fc29=0639+062c
  fc2a=0639+0645 fc2b=063a+062c fc2c=063a+0645 fc2d=0641+062c fc2e=0641+062d fc2f=0641+062e
  fc30=0641+0645 fc31=0641+0649 fc32=0641+064a fc33=0642+062d fc34=0642+0645 fc35=0642+0649
  fc36=0642+064a fc37=0643+0627 fc38=0643+062c fc39=0643+062d fc3a=0643+062e fc3b=0643+0644
  fc3c=0643+0645 fc3d=0643+0649 fc3e=0643+064a fc3f=0644+062c fc40=0644+062d fc41=0644+062e
  fc42=0644+0645 fc43=0644+0649 fc44=0644+064a fc45=0645+062c fc46=0645+062d fc47=0645+062e
  fc48=0645+0645 fc49=0645+0649 fc4a=0645+064a fc4b=0646+062c fc4c=0646+062d fc4d=0646+062e
  fc4e=0646+0645 fc4f=0646+0649 fc50=0646+064a fc51=0647+062c fc52=0647+0645 fc53=0647+0649
  fc54=0647+064a fc55=064a+062c fc56=064a+062d fc57=064a+062e fc58=064a+0645 fc59=064a+0649
  fc5a=064a+064a fc5b=0630+0670 fc5c=0631+0670 fc5d=0649+0670 fc64=064a+0654+0631
  fc65=064a+0654+0632 fc66=064a+0654+0645 fc67=064a+0654+0646 fc68=064a+0654+0649
  fc69=064a+0654+064a fc6a=0628+0631 fc6b=0628+0632 fc6c=0628+0645 fc6d=0628+0646 fc6e=0628+0649
  fc6f=0628+064a fc70=062a+0631 fc71=062a+0632 fc72=062a+0645 fc73=062a+0646 fc74=062a+0649
  fc75=062a+064a fc76=062b+0631 fc77=062b+0632 fc78=062b+0645 fc79=062b+0646 fc7a=062b+0649
  fc7b=062b+064a fc7c=0641+0649 fc7d=0641+064a fc7e=0642+0649 fc7f=0642+064a fc80=0643+0627
  fc81=0643+0644 fc82=0643+0645 fc83=0643+0649 fc84=0643+064a fc85=0644+0645 fc86=0644+0649
  fc87=0644+064a fc88=0645+0627 fc89=0645+0645 fc8a=0646+0631 fc8b=0646+0632 fc8c=0646+0645
  fc8d=0646+0646 fc8e=0646+0649 fc8f=0646+064a fc90=0649+0670 fc91=064a+0631 fc92=064a+0632
  fc93=064a+0645 fc94=064a+0646 fc95=064a+0649 fc96=064a+064a fc97=064a+0654+062c
  fc98=064a+0654+062d fc99=064a+0654+062e fc9a=064a+0654+0645 fc9b=064a+0654+0647 fc9c=0628+062c
  fc9d=0628+062d fc9e=0628+062e fc9f=0628+0645 fca0=0628+0647 fca1=062a+062c fca2=062a+062d
  fca3=062a+062e fca4=062a+0645 fca5=062a+0647 fca6=062b+0645 fca7=062c+062d fca8=062c+0645
  fca9=062d+062c fcaa=062d+0645 fcab=062e+062c fcac=062e+0645 fcad=0633+062c fcae=0633+062d
  fcaf=0633+062e fcb0=0633+0645 fcb1=0635+062d fcb2=0635+062e fcb3=0635+0645 fcb4=0636+062c
  fcb5=0636+062d fcb6=0636+062e fcb7=0636+0645 fcb8=0637+062d fcb9=0638+0645 fcba=0639+062c
  fcbb=0639+0645 fcbc=063a+062c fcbd=063a+0645 fcbe=0641+062c fcbf=0641+062d fcc0=0641+062e
  fcc1=0641+0645 fcc2=0642+062d fcc3=0642+0645 fcc4=0643+062c fcc5=0643+062d fcc6=0643+062e
  fcc7=0643+0644 fcc8=0643+0645 fcc9=0644+062c fcca=0644+062d fccb=0644+062e fccc=0644+0645
  fccd=0644+0647 fcce=0645+062c fccf=0645+062d fcd0=0645+062e fcd1=0645+0645 fcd2=0646+062c
  fcd3=0646+062d fcd4=0646+062e fcd5=0646+0645 fcd6=0646+0647 fcd7=0647+062c fcd8=0647+0645
  fcd9=0647+0670 fcda=064a+062c fcdb=064a+062d fcdc=064a+062e fcdd=064a+0645 fcde=064a+0647
  fcdf=064a+0654+0645 fce0=064a+0654+0647 fce1=0628+0645 fce2=0628+0647 fce3=062a+0645
  fce4=062a+0647 fce5=062b+0645 fce6=062b+0647 fce7=0633+0645 fce8=0633+0647 fce9=0634+0645
  fcea=0634+0647 fceb=0643+0644 fcec=0643+0645 fced=0644+0645 fcee=0646+0645 fcef=0646+0647
  fcf0=064a+0645 fcf1=064a+0647 fcf2=0640+064e+0651 fcf3=0640+064f+0651 fcf4=0640+0650+0651
  fcf5=0637+0649 fcf6=0637+064a fcf7=0639+0649 fcf8=0639+064a fcf9=063a+0649 fcfa=063a+064a
  fcfb=0633+0649 fcfc=0633+064a fcfd=0634+0649 fcfe=0634+064a fcff=062d+0649 fd00=062d+064a
  fd01=062c+0649 fd02=062c+064a fd03=062e+0649 fd04=062e+064a fd05=0635+0649 fd06=0635+064a
  fd07=0636+0649 fd08=0636+064a fd09=0634+062c fd0a=0634+062d fd0b=0634+062e fd0c=0634+0645
  fd0d=0634+0631 fd0e=0633+0631 fd0f=0635+0631 fd10=0636+0631 fd11=0637+0649 fd12=0637+064a
  fd13=0639+0649 fd14=0639+064a fd15=063a+0649 fd16=063a+064a fd17=0633+0649 fd18=0633+064a
  fd19=0634+0649 fd1a=0634+064a fd1b=062d+0649 fd1c=062d+064a fd1d=062c+0649 fd1e=062c+064a
  fd1f=062e+0649 fd20=062e+064a fd21=0635+0649 fd22=0635+064a fd23=0636+0649 fd24=0636+064a
  fd25=0634+062c fd26=0634+062d fd27=0634+062e fd28=0634+0645 fd29=0634+0631 fd2a=0633+0631
  fd2b=0635+0631 fd2c=0636+0631 fd2d=0634+062c fd2e=0634+062d fd2f=0634+062e fd30=0634+0645
  fd31=0633+0647 fd32=0634+0647 fd33=0637+0645 fd34=0633+062c fd35=0633+062d fd36=0633+062e
  fd37=0634+062c fd38=0634+062d fd39=0634+062e fd3a=0637+0645 fd3b=0638+0645 fd3c=0627+064b
  fd3d=0627+064b fd50=062a+062c+0645 fd51=062a+062d+062c fd52=062a+062d+062c fd53=062a+062d+0645
  fd54=062a+062e+0645 fd55=062a+0645+062c fd56=062a+0645+062d fd57=062a+0645+062e
  fd58=062c+0645+062d fd59=062c+0645+062d fd5a=062d+0645+064a fd5b=062d+0645+0649
  fd5c=0633+062d+062c fd5d=0633+062c+062d fd5e=0633+062c+0649 fd5f=0633+0645+062d
  fd60=0633+0645+062d fd61=0633+0645+062c fd62=0633+0645+0645 fd63=0633+0645+0645
  fd64=0635+062d+062d fd65=0635+062d+062d fd66=0635+0645+0645 fd67=0634+062d+0645
  fd68=0634+062d+0645 fd69=0634+062c+064a fd6a=0634+0645+062e fd6b=0634+0645+062e
  fd6c=0634+0645+0645 fd6d=0634+0645+0645 fd6e=0636+062d+0649 fd6f=0636+062e+0645
  fd70=0636+062e+0645 fd71=0637+0645+062d fd72=0637+0645+062d fd73=0637+0645+0645
  fd74=0637+0645+064a fd75=0639+062c+0645 fd76=0639+0645+0645 fd77=0639+0645+0645
  fd78=0639+0645+0649 fd79=063a+0645+0645 fd7a=063a+0645+064a fd7b=063a+0645+0649
  fd7c=0641+062e+0645 fd7d=0641+062e+0645 fd7e=0642+0645+062d fd7f=0642+0645+0645
  fd80=0644+062d+0645 fd81=0644+062d+064a fd82=0644+062d+0649 fd83=0644+062c+062c
  fd84=0644+062c+062c fd85=0644+062e+0645 fd86=0644+062e+0645 fd87=0644+0645+062d
  fd88=0644+0645+062d fd89=0645+062d+062c fd8a=0645+062d+0645 fd8b=0645+062d+064a
  fd8c=0645+062c+062d fd8d=0645+062c+0645 fd8e=0645+062e+062c fd8f=0645+062e+0645
  fd92=0645+062c+062e fd93=0647+0645+062c fd94=0647+0645+0645 fd95=0646+062d+0645
  fd96=0646+062d+0649 fd97=0646+062c+0645 fd98=0646+062c+0645 fd99=0646+062c+0649
  fd9a=0646+0645+064a fd9b=0646+0645+0649 fd9c=064a+0645+0645 fd9d=064a+0645+0645
  fd9e=0628+062e+064a fd9f=062a+062c+064a fda0=062a+062c+0649 fda1=062a+062e+064a
  fda2=062a+062e+0649 fda3=062a+0645+064a fda4=062a+0645+0649 fda5=062c+0645+064a
  fda6=062c+062d+0649 fda7=062c+0645+0649 fda8=0633+062e+0649 fda9=0635+062d+064a
  fdaa=0634+062d+064a fdab=0636+062d+064a fdac=0644+062c+064a fdad=0644+0645+064a
  fdae=064a+062d+064a fdaf=064a+062c+064a fdb0=064a+0645+064a fdb1=0645+0645+064a
  fdb2=0642+0645+064a fdb3=0646+062d+064a fdb4=0642+0645+062d fdb5=0644+062d+0645
  fdb6=0639+0645+064a fdb7=0643+0645+064a fdb8=0646+062c+062d fdb9=0645+062e+064a
  fdba=0644+062c+0645 fdbb=0643+0645+0645 fdbc=0644+062c+0645 fdbd=0646+062c+062d
  fdbe=062c+062d+064a fdbf=062d+062c+064a fdc0=0645+062c+064a fdc1=0641+0645+064a
  fdc2=0628+062d+064a fdc3=0643+0645+0645 fdc4=0639+062c+0645 fdc5=0635+0645+0645
  fdc6=0633+062e+064a fdc7=0646+062c+064a fdf0=0635+0644+06d2 fdf1=0642+0644+06d2
  fdf2=0627+0644+0644+0647 fdf3=0627+0643+0628+0631 fdf4=0645+062d+0645+062f
  fdf5=0635+0644+0639+0645 fdf6=0631+0633+0648+0644 fdf7=0639+0644+064a+0647
  fdf8=0648+0633+0644+0645 fdf9=0635+0644+0649 fe33=005f fe34=005f fe4d=005f fe4e=005f fe4f=005f
  fe71=0640+064b fe77=0640+064e fe79=0640+064f fe7b=0640+0650 fe7d=0640+0651 fe7f=0640+0652
  fe80=0621 fe81=0627+0653 fe82=0627+0653 fe83=0627+0654 fe84=0627+0654 fe85=0648+0654
  fe86=0648+0654 fe87=0627+0655 fe88=0627+0655 fe89=064a+0654 fe8a=064a+0654 fe8b=064a+0654
  fe8c=064a+0654 fe8d=0627 fe8e-fe8f=0627 fe90=0628 fe91=0628 fe92-fe93=0628 fe94-fe95=0629
  fe96=062a fe97=062a fe98-fe99=062a fe9a=062b fe9b=062b fe9c-fe9d=062b fe9e=062c fe9f=062c
  fea0-fea1=062c fea2=062d fea3=062d fea4-fea5=062d fea6=062e fea7=062e fea8-fea9=062e
  feaa-feab=062f feac-fead=0630 feae-feaf=0631 feb0-feb1=0632 feb2=0633 feb3=0633 feb4-feb5=0633
  feb6=0634 feb7=0634 feb8-feb9=0634 feba=0635 febb=0635 febc-febd=0635 febe=0636 febf=0636
  fec0-fec1=0636 fec2=0637 fec3=0637 fec4-fec5=0637 fec6=0638 fec7=0638 fec8-fec9=0638 feca=0639
  fecb=0639 fecc-fecd=0639 fece=063a fecf=063a fed0=063a fed1=0641 fed2=0641 fed3=0641
  fed4-fed5=0641 fed6=0642 fed7=0642 fed8-fed9=0642 feda=0643 fedb=0643 fedc-fedd=0643 fede=0644
  fedf=0644 fee0-fee1=0644 fee2=0645 fee3=0645 fee4-fee5=0645 fee6=0646 fee7=0646 fee8-fee9=0646
  feea=0647 feeb=0647 feec-feed=0647 feee-feef=0648 fef0-fef1=0649 fef2=064a fef3=064a fef4=064a
  fef5=0644+0627+0653 fef6=0644+0627+0653 fef7=0644+0627+0654 fef8=0644+0627+0654
  fef9=0644+0627+0655 fefa=0644+0627+0655 fefb=0644+0627 fefc=0644+0627 ff10-ff19=0030
  ff21-ff3a=0041 ff3f=005f ff41-ff5a=0061 ff66=30f2 ff67=30a1 ff68=30a3 ff69=30a5 ff6a=30a7
  ff6b=30a9 ff6c=30e3 ff6d=30e5 ff6e=30e7 ff6f=30c3 ff70=30fc ff71=30a2 ff72=30a4 ff73=30a6
  ff74=30a8 ff75-ff76=30aa ff77=30ad ff78=30af ff79=30b1 ff7a=30b3 ff7b=30b5 ff7c=30b7 ff7d=30b9
  ff7e=30bb ff7f=30bd ff80=30bf ff81=30c1 ff82=30c4 ff83=30c6 ff84=30c8 ff85-ff8a=30ca ff8b=30d2
  ff8c=30d5 ff8d=30d8 ff8e=30db ff8f-ff93=30de ff94=30e4 ff95=30e6 ff96-ff9b=30e8 ff9c=30ef
  ff9d=30f3 ff9e-ff9f=3099 ffa0=1160 ffa1-ffa2=1100 ffa3=11aa ffa4=1102 ffa5-ffa6=11ac
  ffa7-ffa9=1103 ffaa-ffaf=11b0 ffb0=111a ffb1-ffb3=1106 ffb4=1121 ffb5-ffbe=1109 ffc2-ffc7=1161
  ffca-ffcf=1167 ffd2-ffd7=116d ffda-ffdc=1173 10781-10782=02d0 10783=00e6 10784=0299 10785=0253
  10787=02a3 10788=ab66 10789=02a5 1078a=02a4 1078b-1078c=0256 1078d=1d91 1078e=0258 1078f=025e
  10790=02a9 10791=0264 10792=0262 10793=0260 10794=029b 10795=0127 10796=029c 10797=0267
  10798=0284 10799-1079a=02aa 1079b=026c 1079c=1df04 1079d=a78e 1079e=026e 1079f=1df05 107a0=028e
  107a1=1df06 107a2=00f8 107a3-107a4=0276 107a5=0071 107a6=027a 107a7=1df08 107a8-107a9=027d
  107aa=0280 107ab=02a8 107ac=02a6 107ad=ab67 107ae=02a7 107af=0288 107b0=2c71 107b2=028f
  107b3-107b4=02a1 107b5=0298 107b6-107b8=01c0 107b9=1df0a 107ba=1df1e 1d400-1d419=0041
  1d41a-1d433=0061 1d434-1d44d=0041 1d44e-1d454=0061 1d456-1d467=0069 1d468-1d481=0041
  1d482-1d49b=0061 1d49c=0041 1d49e-1d49f=0043 1d4a2=0047 1d4a5-1d4a6=004a 1d4a9-1d4ac=004e
  1d4ae-1d4b5=0053 1d4b6-1d4b9=0061 1d4bb=0066 1d4bd-1d4c3=0068 1d4c5-1d4cf=0070 1d4d0-1d4e9=0041
  1d4ea-1d503=0061 1d504-1d505=0041 1d507-1d50a=0044 1d50d-1d514=004a 1d516-1d51c=0053
  1d51e-1d537=0061 1d538-1d539=0041 1d53b-1d53e=0044 1d540-1d544=0049 1d546=004f 1d54a-1d550=0053
  1d552-1d56b=0061 1d56c-1d585=0041 1d586-1d59f=0061 1d5a0-1d5b9=0041 1d5ba-1d5d3=0061
  1d5d4-1d5ed=0041 1d5ee-1d607=0061 1d608-1d621=0041 1d622-1d63b=0061 1d63c-1d655=0041
  1d656-1d66f=0061 1d670-1d689=0041 1d68a-1d6a3=0061 1d6a4=0131 1d6a5=0237 1d6a8-1d6b8=0391
  1d6b9=0398 1d6ba-1d6c0=03a3 1d6c2-1d6da=03b1 1d6dc=03b5 1d6dd=03b8 1d6de=03ba 1d6df=03c6
  1d6e0=03c1 1d6e1=03c0 1d6e2-1d6f2=0391 1d6f3=0398 1d6f4-1d6fa=03a3 1d6fc-1d714=03b1 1d716=03b5
  1d717=03b8 1d718=03ba 1d719=03c6 1d71a=03c1 1d71b=03c0 1d71c-1d72c=0391 1d72d=0398
  1d72e-1d734=03a3 1d736-1d74e=03b1 1d750=03b5 1d751=03b8 1d752=03ba 1d753=03c6 1d754=03c1
  1d755=03c0 1d756-1d766=0391 1d767=0398 1d768-1d76e=03a3 1d770-1d788=03b1 1d78a=03b5 1d78b=03b8
  1d78c=03ba 1d78d=03c6 1d78e=03c1 1d78f=03c0 1d790-1d7a0=0391 1d7a1=0398 1d7a2-1d7a8=03a3
  1d7aa-1d7c2=03b1 1d7c4=03b5 1d7c5=03b8 1d7c6=03ba 1d7c7=03c6 1d7c8=03c1 1d7c9=03c0
  1d7ca-1d7cb=03dc 1d7ce-1d7d7=0030 1d7d8-1d7e1=0030 1d7e2-1d7eb=0030 1d7ec-1d7f5=0030
  1d7f6-1d7ff=0030 1ee00-1ee01=0627 1ee02=062c 1ee03=062f 1ee05=0648 1ee06=0632 1ee07=062d
  1ee08=0637 1ee09=064a 1ee0a-1ee0d=0643 1ee0e=0633 1ee0f=0639 1ee10=0641 1ee11=0635 1ee12=0642
  1ee13=0631 1ee14=0634 1ee15-1ee16=062a 1ee17=062e 1ee18=0630 1ee19=0636 1ee1a=0638 1ee1b=063a
  1ee1c=066e 1ee1d=06ba 1ee1e=06a1 1ee1f=066f 1ee21=0628 1ee22=062c 1ee24=0647 1ee27=062d
  1ee29=064a 1ee2a-1ee2d=0643 1ee2e=0633 1ee2f=0639 1ee30=0641 1ee31=0635 1ee32=0642 1ee34=0634
  1ee35-1ee36=062a 1ee37=062e 1ee39=0636 1ee3b=063a 1ee42=062c 1ee47=062d 1ee49=064a 1ee4b=0644
  1ee4d=0646 1ee4e=0633 1ee4f=0639 1ee51=0635 1ee52=0642 1ee54=0634 1ee57=062e 1ee59=0636
  1ee5b=063a 1ee5d=06ba 1ee5f=066f 1ee61=0628 1ee62=062c 1ee64=0647 1ee67=062d 1ee68=0637
  1ee69=064a 1ee6a=0643 1ee6c-1ee6d=0645 1ee6e=0633 1ee6f=0639 1ee70=0641 1ee71=0635 1ee72=0642
  1ee74=0634 1ee75-1ee76=062a 1ee77=062e 1ee79=0636 1ee7a=0638 1ee7b=063a 1ee7c=066e 1ee7e=06a1
  1ee80-1ee81=0627 1ee82=062c 1ee83=062f 1ee84-1ee85=0647 1ee86=0632 1ee87=062d 1ee88=0637
  1ee89=064a 1ee8b-1ee8d=0644 1ee8e=0633 1ee8f=0639 1ee90=0641 1ee91=0635 1ee92=0642 1ee93=0631
  1ee94=0634 1ee95-1ee96=062a 1ee97=062e 1ee98=0630 1ee99=0636 1ee9a=0638 1ee9b=063a 1eea1=0628
  1eea2=062c 1eea3=062f 1eea5=0648 1eea6=0632 1eea7=062d 1eea8=0637 1eea9=064a 1eeab-1eead=0644
  1eeae=0633 1eeaf=0639 1eeb0=0641 1eeb1=0635 1eeb2=0642 1eeb3=0631 1eeb4=0634 1eeb5-1eeb6=062a
  1eeb7=062e 1eeb8=0630 1eeb9=0636 1eeba=0638 1eebb=063a 1fbf0-1fbf9=0030"

/-- A run of characters and what its first one stands for, from an entry of the table. -/
def compatibilityRun? (entry : List Char) : Option (Nat × Nat × List Nat) := do
  let run ← (split (· = '-') (entry.takeWhile (· ≠ '='))).mapM hexadecimal?
  let parts ← (split (· = '+') ((entry.dropWhile (· ≠ '=')).drop 1)).mapM hexadecimal?
  return (← run.head?, ← run.getLast?, parts)

/-- The runs of characters that stand for others. -/
def compatibilityRuns : List (Nat × Nat × List Nat) :=
  (split (fun c => c = ' ' || c = '\n') compatibilityEntries.toList).filterMap compatibilityRun?

/-- What a character of an identifier stands for; most stand for themselves. -/
def standsFor (code : Nat) : List Nat :=
  match compatibilityRuns.find? fun (first, last, _) => first ≤ code && code ≤ last with
  | some (first, _, parts) => parts.map (· + (code - first))
  | none => [code]

/-- An identifier in the form in which it is compared with others. ASCII stands for itself. -/
def canonicalName (name : String) : String :=
  let codes := name.toList.map (·.toNat)
  if codes.all (· < 0x80) then name
  else String.ofList ((compose (codes.flatMap standsFor)).map Char.ofNat)

end Bindery.Text
