import NarIndex.Text.Table

/-!
# NarIndex.Text.Decomposition

Characters that are only another way to write other characters: copies kept for old character sets,
and letters with marks that are always written apart.
-/

namespace NarIndex.Text

/-- The characters that stand for one other character. -/
def copies : LetterTable :=
  [(0x340, "\u0300\u0301\u0342\u0313"), (0x374, "ʹ"), (0x37E, ";"), (0x387, "·"), (0x1FBE, "ι"),
    (0x1FEF, "\x60"), (0x1FFD, "´"), (0x2000, "\u2002\u2003"), (0x2126, "Ω℧ℨ℩K"), (0x2329, "〈〉"),
    (0xF900, "豈更車賈滑串句龜龜契金喇奈懶癩羅蘿螺裸邏樂洛烙珞落酪駱亂卵欄爛蘭鸞嵐濫藍襤拉臘蠟廊朗浪狼郎來冷勞擄櫓爐盧老蘆虜路露魯鷺碌祿綠菉錄鹿論壟弄籠聾牢磊賂雷壘屢樓淚漏累縷陋勒肋"),
    (0xF954, "凜凌稜綾菱陵讀拏樂諾丹寧怒率異北磻便復不泌數索參塞省葉說殺辰沈拾若掠略亮兩凉梁糧良諒量勵呂女廬旅濾礪閭驪麗黎力曆歷轢年憐戀撚漣煉璉秊練聯輦蓮連鍊列劣咽烈裂說廉念捻殮簾獵"),
    (0xF9A8, "令囹寧嶺怜玲瑩羚聆鈴零靈領例禮醴隸惡了僚寮尿料樂燎療蓼遼龍暈阮劉杻柳流溜琉留硫紐類六戮陸倫崙淪輪律慄栗率隆利吏履易李梨泥理痢罹裏裡里離匿溺吝燐璘藺隣鱗麟林淋臨立笠粒狀炙"),
    (0xF9FC, "識什茶刺切度拓糖宅洞暴輻行降見廓兀嗀﨎﨏塚﨑晴﨓﨔凞猪益礼神祥福靖精羽﨟蘒﨡諸﨣﨤逸都﨧﨨﨩飯飼館鶴郞隷侮僧免勉勤卑喝嘆器塀墨層屮悔慨憎懲敏既暑梅海渚漢煮爫琢碑社祉祈祐"),
    (0xFA50, "祖祝禍禎穀突節練縉繁署者臭艹艹著褐視謁謹賓贈辶逸難響頻恵𤋮舘"),
    (0xFA70, "並况全侀充冀勇勺喝啕喙嗢塚墳奄奔婢嬨廒廙彩徭惘慎愈憎慠懲戴揄搜摒敖晴朗望杖歹殺流滛滋漢瀞煮瞧爵犯猪瑱甆画瘝瘟益盛直睊着磌窱節类絛練缾者荒華蝹襁覆視調諸請謁諾諭謹變贈輸遲"),
    (0xFAC4, "醙鉶陼難靖韛響頋頻鬒龜𢡊𢡄𣏕㮝䀘䀹𥉉𥳐𧻓齃龎"),
    (0x2F800, "丽丸乁𠄢你侮侻倂偺備僧像㒞𠘺免兔兤具𠔜㒹內再𠕋冗冤仌冬况𩇟凵刃㓟刻剆割剷㔕勇勉勤勺包匆北卉卑博即卽卿卿卿𠨬灰及叟𠭣叫叱吆咞吸呈周咢哶唐啓啣善善喙喫喳嗂圖嘆圗噑噴切壮城埴"),
    (0x2F854, "堍型堲報墬𡓤売壷夆多夢奢𡚨𡛪姬娛娧姘婦㛮㛼嬈嬾嬾𡧈寃寘寧寳𡬘寿将当尢㞁屠屮峀岍𡷤嵃𡷦嵮嵫嵼巡巢㠯巽帨帽幩㡢𢆃㡼庰庳庶廊𪎒廾𢌱𢌱舁弢弢㣇𣊸𦇚形彫㣣徚忍志忹悁㤺㤜悔𢛔惇慈慌"),
    (0x2F8A8, "慎慌慺憎憲憤憯懞懲懶成戛扝抱拔捐𢬌挽拼捨掃揤𢯱搢揅掩㨮摩摾撝摷㩬敏敬𣀊旣書晉㬙暑㬈㫤冒冕最暜肭䏙朗望朡杞杓𣏃㭉柺枅桒梅𣑭梎栟椔㮝楂榣槪檨𣚣櫛㰘次𣢧歔㱎歲殟殺殻𣪍𡴋𣫺汎𣲼"),
    (0x2F8FC, "沿泍汧洖派海流浩浸涅𣴞洴港湮㴳滋滇𣻑淹潮𣽞𣾎濆瀹瀞瀛㶖灊災灷炭𠔥煅𤉣熜𤎫爨爵牐𤘈犀犕𤜵𤠔獺王㺬玥㺸㺸瑇瑜瑱璅瓊㼛甤𤰶甾𤲒異𢆟瘐𤾡𤾸𥁄㿼䀈直𥃳𥃲𥄙𥄳眞真真睊䀹瞋䁆䂖𥐝硎碌"),
    (0x2F950, "磌䃣𥘦祖𥚚𥛅福秫䄯穀穊穏𥥼𥪧𥪧竮䈂𥮫篆築䈧𥲀糒䊠糨糣紀𥾆絣䌁緇縂繅䌴𦈨𦉇䍙𦋙罺𦌾羕翺者𦓚𦔣聠𦖨聰𣍟䏕育脃䐋脾媵𦞧𦞵𣎓𣎜舁舄辞䑫芑芋芝劳花芳芽苦𦬼若茝荣莭茣莽菧著荓菊菌菜"),
    (0x2F9A4, "𦰶𦵫𦳕䔫蓱蓳蔖𧏊蕤𦼬䕝䕡𦾱𧃒䕫虐虜虧虩蚩蚈蜎蛢蝹蜨蝫螆䗗蟡蠁䗹衠衣𧙧裗裞䘵裺㒻𧢮𧥦䚾䛇誠諭變豕𧲨貫賁贛起𧼯𠠄跋趼跰𠣞軔輸𨗒𨗭邔郱鄑𨜮鄛鈸鋗鋘鉼鏹鐕𨯺開䦕閷𨵷䧦雃嶲霣𩅅𩈚"),
    (0x2F9F8, "䩮䩶韠𩐊䪲𩒖頋頋頩𩖶飢䬳餩馧駂駾䯎𩬰鬒鱀鳽䳎䳭鵧𪃎䳸𪄅𪈎𪊑麻䵖黹黾鼅鼏鼖鼻𪘀")]

/-- The characters that stand for several characters. -/
def separated : TextTable :=
  [(0x344, ["\u0308\u0301"]),
    (0x958,
      ["\u0915\u093C", "\u0916\u093C", "\u0917\u093C", "\u091C\u093C", "\u0921\u093C",
        "\u0922\u093C", "\u092B\u093C", "\u092F\u093C"]),
    (0x9DC, ["\u09A1\u09BC", "\u09A2\u09BC"]), (0x9DF, ["\u09AF\u09BC"]), (0xA33, ["\u0A32\u0A3C"]),
    (0xA36, ["\u0A38\u0A3C"]), (0xA59, ["\u0A16\u0A3C", "\u0A17\u0A3C", "\u0A1C\u0A3C"]),
    (0xA5E, ["\u0A2B\u0A3C"]), (0xB5C, ["\u0B21\u0B3C", "\u0B22\u0B3C"]), (0xF43, ["\u0F42\u0FB7"]),
    (0xF4D, ["\u0F4C\u0FB7"]), (0xF52, ["\u0F51\u0FB7"]), (0xF57, ["\u0F56\u0FB7"]),
    (0xF5C, ["\u0F5B\u0FB7"]), (0xF69, ["\u0F40\u0FB5"]), (0xF73, ["\u0F71\u0F72"]),
    (0xF75, ["\u0F71\u0F74", "\u0FB2\u0F80"]), (0xF78, ["\u0FB3\u0F80"]), (0xF81, ["\u0F71\u0F80"]),
    (0xF93, ["\u0F92\u0FB7"]), (0xF9D, ["\u0F9C\u0FB7"]), (0xFA2, ["\u0FA1\u0FB7"]),
    (0xFA7, ["\u0FA6\u0FB7"]), (0xFAC, ["\u0FAB\u0FB7"]), (0xFB9, ["\u0F90\u0FB5"]),
    (0x1F71, ["α\u0301"]), (0x1F73, ["ε\u0301"]), (0x1F75, ["η\u0301"]), (0x1F77, ["ι\u0301"]),
    (0x1F79, ["ο\u0301"]), (0x1F7B, ["υ\u0301"]), (0x1F7D, ["ω\u0301"]), (0x1FBB, ["Α\u0301"]),
    (0x1FC9, ["Ε\u0301"]), (0x1FCB, ["Η\u0301"]), (0x1FD3, ["ι\u0308\u0301"]),
    (0x1FDB, ["Ι\u0301"]), (0x1FE3, ["υ\u0308\u0301"]), (0x1FEB, ["Υ\u0301"]),
    (0x1FEE, ["¨\u0301"]), (0x1FF9, ["Ο\u0301"]), (0x1FFB, ["Ω\u0301"]), (0x212B, ["A\u030A"]),
    (0x2ADC, ["⫝\u0338"]), (0xFB1D, ["\u05D9\u05B4"]), (0xFB1F, ["\u05F2\u05B7"]),
    (0xFB2A,
      ["\u05E9\u05C1", "\u05E9\u05C2", "\u05E9\u05BC\u05C1", "\u05E9\u05BC\u05C2", "\u05D0\u05B7",
        "\u05D0\u05B8", "\u05D0\u05BC", "\u05D1\u05BC", "\u05D2\u05BC", "\u05D3\u05BC",
        "\u05D4\u05BC", "\u05D5\u05BC", "\u05D6\u05BC"]),
    (0xFB38, ["\u05D8\u05BC", "\u05D9\u05BC", "\u05DA\u05BC", "\u05DB\u05BC", "\u05DC\u05BC"]),
    (0xFB3E, ["\u05DE\u05BC"]), (0xFB40, ["\u05E0\u05BC", "\u05E1\u05BC"]),
    (0xFB43, ["\u05E3\u05BC", "\u05E4\u05BC"]),
    (0xFB46,
      ["\u05E6\u05BC", "\u05E7\u05BC", "\u05E8\u05BC", "\u05E9\u05BC", "\u05EA\u05BC",
        "\u05D5\u05B9", "\u05D1\u05BF", "\u05DB\u05BF", "\u05E4\u05BF"])]

/-- The characters above U+FFFF that stand for several characters. -/
def highSeparated : List (Nat × List Nat) :=
  [(0x1D15E, [0x1D157, 0x1D165]), (0x1D15F, [0x1D158, 0x1D165]),
    (0x1D160, [0x1D158, 0x1D165, 0x1D16E]), (0x1D161, [0x1D158, 0x1D165, 0x1D16F]),
    (0x1D162, [0x1D158, 0x1D165, 0x1D170]), (0x1D163, [0x1D158, 0x1D165, 0x1D171]),
    (0x1D164, [0x1D158, 0x1D165, 0x1D172]), (0x1D1BB, [0x1D1B9, 0x1D165]),
    (0x1D1BC, [0x1D1BA, 0x1D165]), (0x1D1BD, [0x1D1B9, 0x1D165, 0x1D16E]),
    (0x1D1BE, [0x1D1BA, 0x1D165, 0x1D16E]), (0x1D1BF, [0x1D1B9, 0x1D165, 0x1D16F]),
    (0x1D1C0, [0x1D1BA, 0x1D165, 0x1D16F])]

/-- The characters that a character is only another way to write. -/
def standsFor? (n : Nat) : Option (List Char) :=
  (separated.image? n).or
    (((copies.image? n).map ([·])).or ((highSeparated.lookup n).map (·.map Char.ofNat)))

end NarIndex.Text
