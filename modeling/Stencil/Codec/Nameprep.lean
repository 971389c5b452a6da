import Stencil.Text.Range

/-! The tables by which international domain names are brought into one form. A row of a table of texts
    holds entries with tabs between them; the first character of an entry is the one it is about. -/

namespace Stencil.Codec.Nameprep

/-- The characters that are dropped. -/
def dropped : Text.Ranges :=
  [(0xAD, 0xAD), (0x34F, 0x34F), (0x1806, 0x1806), (0x180B, 0x180D), (0x200B, 0x200D),
   (0x2060, 0x2060), (0xFE00, 0xFE0F), (0xFEFF, 0xFEFF)]

/-- What takes the place of a character where letters of either case count as one. -/
def folded : List String :=
  ["Aa\tBb\tCc\tDd\tEe\tFf\tGg\tHh\tIi\tJj\tKk\tLl\tMm\tNn\tOo\tPp\tQq\tRr\tSs\tTt\tUu\tVv\tWw\tXx",
   "Yy\tZz\tµμ\tÀà\tÁá\tÂâ\tÃã\tÄä\tÅå\tÆæ\tÇç\tÈè\tÉé\tÊê\tËë\tÌì\tÍí\tÎî\tÏï\tÐð\tÑñ\tÒò\tÓó\tÔô",
   "Õõ\tÖö\tØø\tÙù\tÚú\tÛû\tÜü\tÝý\tÞþ\tßss\tĀā\tĂă\tĄą\tĆć\tĈĉ\tĊċ\tČč\tĎď\tĐđ\tĒē\tĔĕ\tĖė\tĘę",
   "Ěě\tĜĝ\tĞğ\tĠġ\tĢģ\tĤĥ\tĦħ\tĨĩ\tĪī\tĬĭ\tĮį\tİi\u0307\tĲĳ\tĴĵ\tĶķ\tĹĺ\tĻļ\tĽľ\tĿŀ\tŁł\tŃń\tŅņ",
   "Ňň\tŉʼn\tŊŋ\tŌō\tŎŏ\tŐő\tŒœ\tŔŕ\tŖŗ\tŘř\tŚś\tŜŝ\tŞş\tŠš\tŢţ\tŤť\tŦŧ\tŨũ\tŪū\tŬŭ\tŮů\tŰű\tŲų",
   "Ŵŵ\tŶŷ\tŸÿ\tŹź\tŻż\tŽž\tſs\tƁɓ\tƂƃ\tƄƅ\tƆɔ\tƇƈ\tƉɖ\tƊɗ\tƋƌ\tƎǝ\tƏə\tƐɛ\tƑƒ\tƓɠ\tƔɣ\tƖɩ\tƗɨ\tƘƙ",
   "Ɯɯ\tƝɲ\tƟɵ\tƠơ\tƢƣ\tƤƥ\tƦʀ\tƧƨ\tƩʃ\tƬƭ\tƮʈ\tƯư\tƱʊ\tƲʋ\tƳƴ\tƵƶ\tƷʒ\tƸƹ\tƼƽ\tǄǆ\tǅǆ\tǇǉ\tǈǉ\tǊǌ",
   "ǋǌ\tǍǎ\tǏǐ\tǑǒ\tǓǔ\tǕǖ\tǗǘ\tǙǚ\tǛǜ\tǞǟ\tǠǡ\tǢǣ\tǤǥ\tǦǧ\tǨǩ\tǪǫ\tǬǭ\tǮǯ\tǰj\u030c\tǱǳ\tǲǳ\tǴǵ",
   "Ƕƕ\tǷƿ\tǸǹ\tǺǻ\tǼǽ\tǾǿ\tȀȁ\tȂȃ\tȄȅ\tȆȇ\tȈȉ\tȊȋ\tȌȍ\tȎȏ\tȐȑ\tȒȓ\tȔȕ\tȖȗ\tȘș\tȚț\tȜȝ\tȞȟ\tȠƞ\tȢȣ",
   "Ȥȥ\tȦȧ\tȨȩ\tȪȫ\tȬȭ\tȮȯ\tȰȱ\tȲȳ\tȺⱥ\tȻȼ\tȽƚ\tȾⱦ\tɁɂ\tɃƀ\tɄʉ\tɅʌ\tɆɇ\tɈɉ\tɊɋ\tɌɍ\tɎɏ\t\u0345ι",
   "Ͱͱ\tͲͳ\tͶͷ\tͺ ι\tͿϳ\tΆά\tΈέ\tΉή\tΊί\tΌό\tΎύ\tΏώ\tΐι\u0308\u0301\tΑα\tΒβ\tΓγ\tΔδ\tΕε\tΖζ\tΗη",
   "Θθ\tΙι\tΚκ\tΛλ\tΜμ\tΝν\tΞξ\tΟο\tΠπ\tΡρ\tΣσ\tΤτ\tΥυ\tΦφ\tΧχ\tΨψ\tΩω\tΪϊ\tΫϋ\tΰυ\u0308\u0301\tςσ",
   "Ϗϗ\tϐβ\tϑθ\tϒυ\tϓύ\tϔϋ\tϕφ\tϖπ\tϘϙ\tϚϛ\tϜϝ\tϞϟ\tϠϡ\tϢϣ\tϤϥ\tϦϧ\tϨϩ\tϪϫ\tϬϭ\tϮϯ\tϰκ\tϱρ\tϲσ\tϴθ",
   "ϵε\tϷϸ\tϹσ\tϺϻ\tϽͻ\tϾͼ\tϿͽ\tЀѐ\tЁё\tЂђ\tЃѓ\tЄє\tЅѕ\tІі\tЇї\tЈј\tЉљ\tЊњ\tЋћ\tЌќ\tЍѝ\tЎў\tЏџ\tАа",
   "Бб\tВв\tГг\tДд\tЕе\tЖж\tЗз\tИи\tЙй\tКк\tЛл\tМм\tНн\tОо\tПп\tРр\tСс\tТт\tУу\tФф\tХх\tЦц\tЧч\tШш",
   "Щщ\tЪъ\tЫы\tЬь\tЭэ\tЮю\tЯя\tѠѡ\tѢѣ\tѤѥ\tѦѧ\tѨѩ\tѪѫ\tѬѭ\tѮѯ\tѰѱ\tѲѳ\tѴѵ\tѶѷ\tѸѹ\tѺѻ\tѼѽ\tѾѿ\tҀҁ",
   "Ҋҋ\tҌҍ\tҎҏ\tҐґ\tҒғ\tҔҕ\tҖҗ\tҘҙ\tҚқ\tҜҝ\tҞҟ\tҠҡ\tҢң\tҤҥ\tҦҧ\tҨҩ\tҪҫ\tҬҭ\tҮү\tҰұ\tҲҳ\tҴҵ\tҶҷ\tҸҹ",
   "Һһ\tҼҽ\tҾҿ\tӀӏ\tӁӂ\tӃӄ\tӅӆ\tӇӈ\tӉӊ\tӋӌ\tӍӎ\tӐӑ\tӒӓ\tӔӕ\tӖӗ\tӘә\tӚӛ\tӜӝ\tӞӟ\tӠӡ\tӢӣ\tӤӥ\tӦӧ\tӨө",
   "Ӫӫ\tӬӭ\tӮӯ\tӰӱ\tӲӳ\tӴӵ\tӶӷ\tӸӹ\tӺӻ\tӼӽ\tӾӿ\tԀԁ\tԂԃ\tԄԅ\tԆԇ\tԈԉ\tԊԋ\tԌԍ\tԎԏ\tԐԑ\tԒԓ\tԔԕ\tԖԗ\tԘԙ",
   "Ԛԛ\tԜԝ\tԞԟ\tԠԡ\tԢԣ\tԤԥ\tԦԧ\tԨԩ\tԪԫ\tԬԭ\tԮԯ\tԱա\tԲբ\tԳգ\tԴդ\tԵե\tԶզ\tԷէ\tԸը\tԹթ\tԺժ\tԻի\tԼլ\tԽխ",
   "Ծծ\tԿկ\tՀհ\tՁձ\tՂղ\tՃճ\tՄմ\tՅյ\tՆն\tՇշ\tՈո\tՉչ\tՊպ\tՋջ\tՌռ\tՍս\tՎվ\tՏտ\tՐր\tՑց\tՒւ\tՓփ\tՔք\tՕօ",
   "Ֆֆ\tևեւ\tႠⴀ\tႡⴁ\tႢⴂ\tႣⴃ\tႤⴄ\tႥⴅ\tႦⴆ\tႧⴇ\tႨⴈ\tႩⴉ\tႪⴊ\tႫⴋ\tႬⴌ\tႭⴍ\tႮⴎ\tႯⴏ\tႰⴐ\tႱⴑ\tႲⴒ\tႳⴓ\tႴⴔ",
   "Ⴕⴕ\tႶⴖ\tႷⴗ\tႸⴘ\tႹⴙ\tႺⴚ\tႻⴛ\tႼⴜ\tႽⴝ\tႾⴞ\tႿⴟ\tჀⴠ\tჁⴡ\tჂⴢ\tჃⴣ\tჄⴤ\tჅⴥ\tჇⴧ\tჍⴭ\tᎠꭰ\tᎡꭱ\tᎢꭲ\tᎣꭳ\tᎤꭴ",
   "Ꭵꭵ\tᎦꭶ\tᎧꭷ\tᎨꭸ\tᎩꭹ\tᎪꭺ\tᎫꭻ\tᎬꭼ\tᎭꭽ\tᎮꭾ\tᎯꭿ\tᎰꮀ\tᎱꮁ\tᎲꮂ\tᎳꮃ\tᎴꮄ\tᎵꮅ\tᎶꮆ\tᎷꮇ\tᎸꮈ\tᎹꮉ\tᎺꮊ\tᎻꮋ\tᎼꮌ",
   "Ꮍꮍ\tᎾꮎ\tᎿꮏ\tᏀꮐ\tᏁꮑ\tᏂꮒ\tᏃꮓ\tᏄꮔ\tᏅꮕ\tᏆꮖ\tᏇꮗ\tᏈꮘ\tᏉꮙ\tᏊꮚ\tᏋꮛ\tᏌꮜ\tᏍꮝ\tᏎꮞ\tᏏꮟ\tᏐꮠ\tᏑꮡ\tᏒꮢ\tᏓꮣ\tᏔꮤ",
   "Ꮥꮥ\tᏖꮦ\tᏗꮧ\tᏘꮨ\tᏙꮩ\tᏚꮪ\tᏛꮫ\tᏜꮬ\tᏝꮭ\tᏞꮮ\tᏟꮯ\tᏠꮰ\tᏡꮱ\tᏢꮲ\tᏣꮳ\tᏤꮴ\tᏥꮵ\tᏦꮶ\tᏧꮷ\tᏨꮸ\tᏩꮹ\tᏪꮺ\tᏫꮻ\tᏬꮼ",
   "Ꮽꮽ\tᏮꮾ\tᏯꮿ\tᏰᏸ\tᏱᏹ\tᏲᏺ\tᏳᏻ\tᏴᏼ\tᏵᏽ\tᲐა\tᲑბ\tᲒგ\tᲓდ\tᲔე\tᲕვ\tᲖზ\tᲗთ\tᲘი\tᲙკ\tᲚლ\tᲛმ\tᲜნ\tᲝო\tᲞპ",
   "Ჟჟ\tᲠრ\tᲡს\tᲢტ\tᲣუ\tᲤფ\tᲥქ\tᲦღ\tᲧყ\tᲨშ\tᲩჩ\tᲪც\tᲫძ\tᲬწ\tᲭჭ\tᲮხ\tᲯჯ\tᲰჰ\tᲱჱ\tᲲჲ\tᲳჳ\tᲴჴ\tᲵჵ\tᲶჶ",
   "Ჷჷ\tᲸჸ\tᲹჹ\tᲺჺ\tᲽჽ\tᲾჾ\tᲿჿ\tḀḁ\tḂḃ\tḄḅ\tḆḇ\tḈḉ\tḊḋ\tḌḍ\tḎḏ\tḐḑ\tḒḓ\tḔḕ\tḖḗ\tḘḙ\tḚḛ\tḜḝ\tḞḟ\tḠḡ",
   "Ḣḣ\tḤḥ\tḦḧ\tḨḩ\tḪḫ\tḬḭ\tḮḯ\tḰḱ\tḲḳ\tḴḵ\tḶḷ\tḸḹ\tḺḻ\tḼḽ\tḾḿ\tṀṁ\tṂṃ\tṄṅ\tṆṇ\tṈṉ\tṊṋ\tṌṍ\tṎṏ\tṐṑ",
   "Ṓṓ\tṔṕ\tṖṗ\tṘṙ\tṚṛ\tṜṝ\tṞṟ\tṠṡ\tṢṣ\tṤṥ\tṦṧ\tṨṩ\tṪṫ\tṬṭ\tṮṯ\tṰṱ\tṲṳ\tṴṵ\tṶṷ\tṸṹ\tṺṻ\tṼṽ\tṾṿ\tẀẁ",
   "Ẃẃ\tẄẅ\tẆẇ\tẈẉ\tẊẋ\tẌẍ\tẎẏ\tẐẑ\tẒẓ\tẔẕ\tẖh\u0331\tẗt\u0308\tẘw\u030a\tẙy\u030a\tẚaʾ\tẛṡ\tẞss",
   "Ạạ\tẢả\tẤấ\tẦầ\tẨẩ\tẪẫ\tẬậ\tẮắ\tẰằ\tẲẳ\tẴẵ\tẶặ\tẸẹ\tẺẻ\tẼẽ\tẾế\tỀề\tỂể\tỄễ\tỆệ\tỈỉ\tỊị\tỌọ\tỎỏ",
   "Ốố\tỒồ\tỔổ\tỖỗ\tỘộ\tỚớ\tỜờ\tỞở\tỠỡ\tỢợ\tỤụ\tỦủ\tỨứ\tỪừ\tỬử\tỮữ\tỰự\tỲỳ\tỴỵ\tỶỷ\tỸỹ\tỺỻ\tỼỽ\tỾỿ",
   "Ἀἀ\tἉἁ\tἊἂ\tἋἃ\tἌἄ\tἍἅ\tἎἆ\tἏἇ\tἘἐ\tἙἑ\tἚἒ\tἛἓ\tἜἔ\tἝἕ\tἨἠ\tἩἡ\tἪἢ\tἫἣ\tἬἤ\tἭἥ\tἮἦ\tἯἧ\tἸἰ\tἹἱ",
   "Ἲἲ\tἻἳ\tἼἴ\tἽἵ\tἾἶ\tἿἷ\tὈὀ\tὉὁ\tὊὂ\tὋὃ\tὌὄ\tὍὅ\tὐυ\u0313\tὒυ\u0313\u0300\tὔυ\u0313\u0301",
   "ὖυ\u0313\u0342\tὙὑ\tὛὓ\tὝὕ\tὟὗ\tὨὠ\tὩὡ\tὪὢ\tὫὣ\tὬὤ\tὭὥ\tὮὦ\tὯὧ\tᾀἀι\tᾁἁι\tᾂἂι\tᾃἃι\tᾄἄι\tᾅἅι",
   "ᾆἆι\tᾇἇι\tᾈἀι\tᾉἁι\tᾊἂι\tᾋἃι\tᾌἄι\tᾍἅι\tᾎἆι\tᾏἇι\tᾐἠι\tᾑἡι\tᾒἢι\tᾓἣι\tᾔἤι\tᾕἥι\tᾖἦι\tᾗἧι\tᾘἠι",
   "ᾙἡι\tᾚἢι\tᾛἣι\tᾜἤι\tᾝἥι\tᾞἦι\tᾟἧι\tᾠὠι\tᾡὡι\tᾢὢι\tᾣὣι\tᾤὤι\tᾥὥι\tᾦὦι\tᾧὧι\tᾨὠι\tᾩὡι\tᾪὢι\tᾫὣι",
   "ᾬὤι\tᾭὥι\tᾮὦι\tᾯὧι\tᾲὰι\tᾳαι\tᾴάι\tᾶα\u0342\tᾷα\u0342ι\tᾸᾰ\tᾹᾱ\tᾺὰ\tΆά\tᾼαι\tιι\tῂὴι\tῃηι\tῄήι",
   "ῆη\u0342\tῇη\u0342ι\tῈὲ\tΈέ\tῊὴ\tΉή\tῌηι\tῒι\u0308\u0300\tΐι\u0308\u0301\tῖι\u0342",
   "ῗι\u0308\u0342\tῘῐ\tῙῑ\tῚὶ\tΊί\tῢυ\u0308\u0300\tΰυ\u0308\u0301\tῤρ\u0313\tῦυ\u0342",
   "ῧυ\u0308\u0342\tῨῠ\tῩῡ\tῪὺ\tΎύ\tῬῥ\tῲὼι\tῳωι\tῴώι\tῶω\u0342\tῷω\u0342ι\tῸὸ\tΌό\tῺὼ\tΏώ\tῼωι",
   "₨rs\tℂc\t℃°c\tℇɛ\t℉°f\tℋh\tℌh\tℍh\tℐi\tℑi\tℒl\tℕn\t№no\tℙp\tℚq\tℛr\tℜr\tℝr\t℠sm\t℡tel\t™tm\tℤz",
   "Ωω\tℨz\tKk\tÅå\tℬb\tℭc\tℰe\tℱf\tℲⅎ\tℳm\tℾγ\tℿπ\tⅅd\tⅠⅰ\tⅡⅱ\tⅢⅲ\tⅣⅳ\tⅤⅴ\tⅥⅵ\tⅦⅶ\tⅧⅷ\tⅨⅸ\tⅩⅹ\tⅪⅺ",
   "Ⅻⅻ\tⅬⅼ\tⅭⅽ\tⅮⅾ\tⅯⅿ\tↃↄ\tⒶⓐ\tⒷⓑ\tⒸⓒ\tⒹⓓ\tⒺⓔ\tⒻⓕ\tⒼⓖ\tⒽⓗ\tⒾⓘ\tⒿⓙ\tⓀⓚ\tⓁⓛ\tⓂⓜ\tⓃⓝ\tⓄⓞ\tⓅⓟ\tⓆⓠ\tⓇⓡ",
   "Ⓢⓢ\tⓉⓣ\tⓊⓤ\tⓋⓥ\tⓌⓦ\tⓍⓧ\tⓎⓨ\tⓏⓩ\tⰀⰰ\tⰁⰱ\tⰂⰲ\tⰃⰳ\tⰄⰴ\tⰅⰵ\tⰆⰶ\tⰇⰷ\tⰈⰸ\tⰉⰹ\tⰊⰺ\tⰋⰻ\tⰌⰼ\tⰍⰽ\tⰎⰾ\tⰏⰿ",
   "Ⱀⱀ\tⰑⱁ\tⰒⱂ\tⰓⱃ\tⰔⱄ\tⰕⱅ\tⰖⱆ\tⰗⱇ\tⰘⱈ\tⰙⱉ\tⰚⱊ\tⰛⱋ\tⰜⱌ\tⰝⱍ\tⰞⱎ\tⰟⱏ\tⰠⱐ\tⰡⱑ\tⰢⱒ\tⰣⱓ\tⰤⱔ\tⰥⱕ\tⰦⱖ\tⰧⱗ",
   "Ⱘⱘ\tⰩⱙ\tⰪⱚ\tⰫⱛ\tⰬⱜ\tⰭⱝ\tⰮⱞ\tⰯⱟ\tⱠⱡ\tⱢɫ\tⱣᵽ\tⱤɽ\tⱧⱨ\tⱩⱪ\tⱫⱬ\tⱭɑ\tⱮɱ\tⱯɐ\tⱰɒ\tⱲⱳ\tⱵⱶ\tⱾȿ\tⱿɀ\tⲀⲁ",
   "Ⲃⲃ\tⲄⲅ\tⲆⲇ\tⲈⲉ\tⲊⲋ\tⲌⲍ\tⲎⲏ\tⲐⲑ\tⲒⲓ\tⲔⲕ\tⲖⲗ\tⲘⲙ\tⲚⲛ\tⲜⲝ\tⲞⲟ\tⲠⲡ\tⲢⲣ\tⲤⲥ\tⲦⲧ\tⲨⲩ\tⲪⲫ\tⲬⲭ\tⲮⲯ\tⲰⲱ",
   "Ⲳⲳ\tⲴⲵ\tⲶⲷ\tⲸⲹ\tⲺⲻ\tⲼⲽ\tⲾⲿ\tⳀⳁ\tⳂⳃ\tⳄⳅ\tⳆⳇ\tⳈⳉ\tⳊⳋ\tⳌⳍ\tⳎⳏ\tⳐⳑ\tⳒⳓ\tⳔⳕ\tⳖⳗ\tⳘⳙ\tⳚⳛ\tⳜⳝ\tⳞⳟ\tⳠⳡ",
   "Ⳣⳣ\tⳫⳬ\tⳭⳮ\tⳲⳳ\t㍱hpa\t㍳au\t㍵ov\t㎀pa\t㎁na\t㎂μa\t㎃ma\t㎄ka\t㎅kb\t㎆mb\t㎇gb\t㎊pf\t㎋nf\t㎌μf\t㎐hz",
   "㎑khz\t㎒mhz\t㎓ghz\t㎔thz\t㎩pa\t㎪kpa\t㎫mpa\t㎬gpa\t㎴pv\t㎵nv\t㎶μv\t㎷mv\t㎸kv\t㎹mv\t㎺pw\t㎻nw\t㎼μw",
   "㎽mw\t㎾kw\t㎿mw\t㏀kω\t㏁mω\t㏃bq\t㏆c∕kg\t㏇co.\t㏈db\t㏉gy\t㏋hp\t㏍kk\t㏎km\t㏗ph\t㏙ppm\t㏚pr\t㏜sv\t㏝wb",
   "Ꙁꙁ\tꙂꙃ\tꙄꙅ\tꙆꙇ\tꙈꙉ\tꙊꙋ\tꙌꙍ\tꙎꙏ\tꙐꙑ\tꙒꙓ\tꙔꙕ\tꙖꙗ\tꙘꙙ\tꙚꙛ\tꙜꙝ\tꙞꙟ\tꙠꙡ\tꙢꙣ\tꙤꙥ\tꙦꙧ\tꙨꙩ\tꙪꙫ\tꙬꙭ\tꚀꚁ",
   "Ꚃꚃ\tꚄꚅ\tꚆꚇ\tꚈꚉ\tꚊꚋ\tꚌꚍ\tꚎꚏ\tꚐꚑ\tꚒꚓ\tꚔꚕ\tꚖꚗ\tꚘꚙ\tꚚꚛ\tꜢꜣ\tꜤꜥ\tꜦꜧ\tꜨꜩ\tꜪꜫ\tꜬꜭ\tꜮꜯ\tꜲꜳ\tꜴꜵ\tꜶꜷ\tꜸꜹ",
   "Ꜻꜻ\tꜼꜽ\tꜾꜿ\tꝀꝁ\tꝂꝃ\tꝄꝅ\tꝆꝇ\tꝈꝉ\tꝊꝋ\tꝌꝍ\tꝎꝏ\tꝐꝑ\tꝒꝓ\tꝔꝕ\tꝖꝗ\tꝘꝙ\tꝚꝛ\tꝜꝝ\tꝞꝟ\tꝠꝡ\tꝢꝣ\tꝤꝥ\tꝦꝧ\tꝨꝩ",
   "Ꝫꝫ\tꝬꝭ\tꝮꝯ\tꝹꝺ\tꝻꝼ\tꝽᵹ\tꝾꝿ\tꞀꞁ\tꞂꞃ\tꞄꞅ\tꞆꞇ\tꞋꞌ\tꞍɥ\tꞐꞑ\tꞒꞓ\tꞖꞗ\tꞘꞙ\tꞚꞛ\tꞜꞝ\tꞞꞟ\tꞠꞡ\tꞢꞣ\tꞤꞥ\tꞦꞧ",
   "Ꞩꞩ\tꞪɦ\tꞫɜ\tꞬɡ\tꞭɬ\tꞮɪ\tꞰʞ\tꞱʇ\tꞲʝ\tꞳꭓ\tꞴꞵ\tꞶꞷ\tꞸꞹ\tꞺꞻ\tꞼꞽ\tꞾꞿ\tꟀꟁ\tꟂꟃ\tꟄꞔ\tꟅʂ\tꟆᶎ\tꟇꟈ\tꟉꟊ\tꟐꟑ",
   "Ꟗꟗ\tꟘꟙ\tꟵꟶ\tﬀff\tﬁfi\tﬂfl\tﬃffi\tﬄffl\tﬅst\tﬆst\tﬓմն\tﬔմե\tﬕմի\tﬖվն\tﬗմխ\tＡａ\tＢｂ\tＣｃ\tＤｄ\tＥｅ",
   "Ｆｆ\tＧｇ\tＨｈ\tＩｉ\tＪｊ\tＫｋ\tＬｌ\tＭｍ\tＮｎ\tＯｏ\tＰｐ\tＱｑ\tＲｒ\tＳｓ\tＴｔ\tＵｕ\tＶｖ\tＷｗ\tＸｘ\tＹｙ\tＺｚ\t𐐀𐐨\t𐐁𐐩\t𐐂𐐪",
   "𐐃𐐫\t𐐄𐐬\t𐐅𐐭\t𐐆𐐮\t𐐇𐐯\t𐐈𐐰\t𐐉𐐱\t𐐊𐐲\t𐐋𐐳\t𐐌𐐴\t𐐍𐐵\t𐐎𐐶\t𐐏𐐷\t𐐐𐐸\t𐐑𐐹\t𐐒𐐺\t𐐓𐐻\t𐐔𐐼\t𐐕𐐽\t𐐖𐐾\t𐐗𐐿\t𐐘𐑀\t𐐙𐑁\t𐐚𐑂",
   "𐐛𐑃\t𐐜𐑄\t𐐝𐑅\t𐐞𐑆\t𐐟𐑇\t𐐠𐑈\t𐐡𐑉\t𐐢𐑊\t𐐣𐑋\t𐐤𐑌\t𐐥𐑍\t𐐦𐑎\t𐐧𐑏\t𐒰𐓘\t𐒱𐓙\t𐒲𐓚\t𐒳𐓛\t𐒴𐓜\t𐒵𐓝\t𐒶𐓞\t𐒷𐓟\t𐒸𐓠\t𐒹𐓡\t𐒺𐓢",
   "𐒻𐓣\t𐒼𐓤\t𐒽𐓥\t𐒾𐓦\t𐒿𐓧\t𐓀𐓨\t𐓁𐓩\t𐓂𐓪\t𐓃𐓫\t𐓄𐓬\t𐓅𐓭\t𐓆𐓮\t𐓇𐓯\t𐓈𐓰\t𐓉𐓱\t𐓊𐓲\t𐓋𐓳\t𐓌𐓴\t𐓍𐓵\t𐓎𐓶\t𐓏𐓷\t𐓐𐓸\t𐓑𐓹\t𐓒𐓺",
   "𐓓𐓻\t𐕰𐖗\t𐕱𐖘\t𐕲𐖙\t𐕳𐖚\t𐕴𐖛\t𐕵𐖜\t𐕶𐖝\t𐕷𐖞\t𐕸𐖟\t𐕹𐖠\t𐕺𐖡\t𐕼𐖣\t𐕽𐖤\t𐕾𐖥\t𐕿𐖦\t𐖀𐖧\t𐖁𐖨\t𐖂𐖩\t𐖃𐖪\t𐖄𐖫\t𐖅𐖬\t𐖆𐖭\t𐖇𐖮",
   "𐖈𐖯\t𐖉𐖰\t𐖊𐖱\t𐖌𐖳\t𐖍𐖴\t𐖎𐖵\t𐖏𐖶\t𐖐𐖷\t𐖑𐖸\t𐖒𐖹\t𐖔𐖻\t𐖕𐖼\t𐲀𐳀\t𐲁𐳁\t𐲂𐳂\t𐲃𐳃\t𐲄𐳄\t𐲅𐳅\t𐲆𐳆\t𐲇𐳇\t𐲈𐳈\t𐲉𐳉\t𐲊𐳊\t𐲋𐳋",
   "𐲌𐳌\t𐲍𐳍\t𐲎𐳎\t𐲏𐳏\t𐲐𐳐\t𐲑𐳑\t𐲒𐳒\t𐲓𐳓\t𐲔𐳔\t𐲕𐳕\t𐲖𐳖\t𐲗𐳗\t𐲘𐳘\t𐲙𐳙\t𐲚𐳚\t𐲛𐳛\t𐲜𐳜\t𐲝𐳝\t𐲞𐳞\t𐲟𐳟\t𐲠𐳠\t𐲡𐳡\t𐲢𐳢\t𐲣𐳣",
   "𐲤𐳤\t𐲥𐳥\t𐲦𐳦\t𐲧𐳧\t𐲨𐳨\t𐲩𐳩\t𐲪𐳪\t𐲫𐳫\t𐲬𐳬\t𐲭𐳭\t𐲮𐳮\t𐲯𐳯\t𐲰𐳰\t𐲱𐳱\t𐲲𐳲\t𑢠𑣀\t𑢡𑣁\t𑢢𑣂\t𑢣𑣃\t𑢤𑣄\t𑢥𑣅\t𑢦𑣆\t𑢧𑣇\t𑢨𑣈",
   "𑢩𑣉\t𑢪𑣊\t𑢫𑣋\t𑢬𑣌\t𑢭𑣍\t𑢮𑣎\t𑢯𑣏\t𑢰𑣐\t𑢱𑣑\t𑢲𑣒\t𑢳𑣓\t𑢴𑣔\t𑢵𑣕\t𑢶𑣖\t𑢷𑣗\t𑢸𑣘\t𑢹𑣙\t𑢺𑣚\t𑢻𑣛\t𑢼𑣜\t𑢽𑣝\t𑢾𑣞\t𑢿𑣟\t𖹀𖹠",
   "𖹁𖹡\t𖹂𖹢\t𖹃𖹣\t𖹄𖹤\t𖹅𖹥\t𖹆𖹦\t𖹇𖹧\t𖹈𖹨\t𖹉𖹩\t𖹊𖹪\t𖹋𖹫\t𖹌𖹬\t𖹍𖹭\t𖹎𖹮\t𖹏𖹯\t𖹐𖹰\t𖹑𖹱\t𖹒𖹲\t𖹓𖹳\t𖹔𖹴\t𖹕𖹵\t𖹖𖹶\t𖹗𖹷\t𖹘𖹸",
   "𖹙𖹹\t𖹚𖹺\t𖹛𖹻\t𖹜𖹼\t𖹝𖹽\t𖹞𖹾\t𖹟𖹿\t𝐀a\t𝐁b\t𝐂c\t𝐃d\t𝐄e\t𝐅f\t𝐆g\t𝐇h\t𝐈i\t𝐉j\t𝐊k\t𝐋l\t𝐌m\t𝐍n\t𝐎o\t𝐏p\t𝐐q",
   "𝐑r\t𝐒s\t𝐓t\t𝐔u\t𝐕v\t𝐖w\t𝐗x\t𝐘y\t𝐙z\t𝐴a\t𝐵b\t𝐶c\t𝐷d\t𝐸e\t𝐹f\t𝐺g\t𝐻h\t𝐼i\t𝐽j\t𝐾k\t𝐿l\t𝑀m\t𝑁n\t𝑂o",
   "𝑃p\t𝑄q\t𝑅r\t𝑆s\t𝑇t\t𝑈u\t𝑉v\t𝑊w\t𝑋x\t𝑌y\t𝑍z\t𝑨a\t𝑩b\t𝑪c\t𝑫d\t𝑬e\t𝑭f\t𝑮g\t𝑯h\t𝑰i\t𝑱j\t𝑲k\t𝑳l\t𝑴m",
   "𝑵n\t𝑶o\t𝑷p\t𝑸q\t𝑹r\t𝑺s\t𝑻t\t𝑼u\t𝑽v\t𝑾w\t𝑿x\t𝒀y\t𝒁z\t𝒜a\t𝒞c\t𝒟d\t𝒢g\t𝒥j\t𝒦k\t𝒩n\t𝒪o\t𝒫p\t𝒬q\t𝒮s",
   "𝒯t\t𝒰u\t𝒱v\t𝒲w\t𝒳x\t𝒴y\t𝒵z\t𝓐a\t𝓑b\t𝓒c\t𝓓d\t𝓔e\t𝓕f\t𝓖g\t𝓗h\t𝓘i\t𝓙j\t𝓚k\t𝓛l\t𝓜m\t𝓝n\t𝓞o\t𝓟p\t𝓠q",
   "𝓡r\t𝓢s\t𝓣t\t𝓤u\t𝓥v\t𝓦w\t𝓧x\t𝓨y\t𝓩z\t𝔄a\t𝔅b\t𝔇d\t𝔈e\t𝔉f\t𝔊g\t𝔍j\t𝔎k\t𝔏l\t𝔐m\t𝔑n\t𝔒o\t𝔓p\t𝔔q\t𝔖s",
   "𝔗t\t𝔘u\t𝔙v\t𝔚w\t𝔛x\t𝔜y\t𝔸a\t𝔹b\t𝔻d\t𝔼e\t𝔽f\t𝔾g\t𝕀i\t𝕁j\t𝕂k\t𝕃l\t𝕄m\t𝕆o\t𝕊s\t𝕋t\t𝕌u\t𝕍v\t𝕎w\t𝕏x",
   "𝕐y\t𝕬a\t𝕭b\t𝕮c\t𝕯d\t𝕰e\t𝕱f\t𝕲g\t𝕳h\t𝕴i\t𝕵j\t𝕶k\t𝕷l\t𝕸m\t𝕹n\t𝕺o\t𝕻p\t𝕼q\t𝕽r\t𝕾s\t𝕿t\t𝖀u\t𝖁v\t𝖂w",
   "𝖃x\t𝖄y\t𝖅z\t𝖠a\t𝖡b\t𝖢c\t𝖣d\t𝖤e\t𝖥f\t𝖦g\t𝖧h\t𝖨i\t𝖩j\t𝖪k\t𝖫l\t𝖬m\t𝖭n\t𝖮o\t𝖯p\t𝖰q\t𝖱r\t𝖲s\t𝖳t\t𝖴u",
   "𝖵v\t𝖶w\t𝖷x\t𝖸y\t𝖹z\t𝗔a\t𝗕b\t𝗖c\t𝗗d\t𝗘e\t𝗙f\t𝗚g\t𝗛h\t𝗜i\t𝗝j\t𝗞k\t𝗟l\t𝗠m\t𝗡n\t𝗢o\t𝗣p\t𝗤q\t𝗥r\t𝗦s",
   "𝗧t\t𝗨u\t𝗩v\t𝗪w\t𝗫x\t𝗬y\t𝗭z\t𝘈a\t𝘉b\t𝘊c\t𝘋d\t𝘌e\t𝘍f\t𝘎g\t𝘏h\t𝘐i\t𝘑j\t𝘒k\t𝘓l\t𝘔m\t𝘕n\t𝘖o\t𝘗p\t𝘘q",
   "𝘙r\t𝘚s\t𝘛t\t𝘜u\t𝘝v\t𝘞w\t𝘟x\t𝘠y\t𝘡z\t𝘼a\t𝘽b\t𝘾c\t𝘿d\t𝙀e\t𝙁f\t𝙂g\t𝙃h\t𝙄i\t𝙅j\t𝙆k\t𝙇l\t𝙈m\t𝙉n\t𝙊o",
   "𝙋p\t𝙌q\t𝙍r\t𝙎s\t𝙏t\t𝙐u\t𝙑v\t𝙒w\t𝙓x\t𝙔y\t𝙕z\t𝙰a\t𝙱b\t𝙲c\t𝙳d\t𝙴e\t𝙵f\t𝙶g\t𝙷h\t𝙸i\t𝙹j\t𝙺k\t𝙻l\t𝙼m",
   "𝙽n\t𝙾o\t𝙿p\t𝚀q\t𝚁r\t𝚂s\t𝚃t\t𝚄u\t𝚅v\t𝚆w\t𝚇x\t𝚈y\t𝚉z\t𝚨α\t𝚩β\t𝚪γ\t𝚫δ\t𝚬ε\t𝚭ζ\t𝚮η\t𝚯θ\t𝚰ι\t𝚱κ\t𝚲λ",
   "𝚳μ\t𝚴ν\t𝚵ξ\t𝚶ο\t𝚷π\t𝚸ρ\t𝚹θ\t𝚺σ\t𝚻τ\t𝚼υ\t𝚽φ\t𝚾χ\t𝚿ψ\t𝛀ω\t𝛓σ\t𝛢α\t𝛣β\t𝛤γ\t𝛥δ\t𝛦ε\t𝛧ζ\t𝛨η\t𝛩θ\t𝛪ι",
   "𝛫κ\t𝛬λ\t𝛭μ\t𝛮ν\t𝛯ξ\t𝛰ο\t𝛱π\t𝛲ρ\t𝛳θ\t𝛴σ\t𝛵τ\t𝛶υ\t𝛷φ\t𝛸χ\t𝛹ψ\t𝛺ω\t𝜍σ\t𝜜α\t𝜝β\t𝜞γ\t𝜟δ\t𝜠ε\t𝜡ζ\t𝜢η",
   "𝜣θ\t𝜤ι\t𝜥κ\t𝜦λ\t𝜧μ\t𝜨ν\t𝜩ξ\t𝜪ο\t𝜫π\t𝜬ρ\t𝜭θ\t𝜮σ\t𝜯τ\t𝜰υ\t𝜱φ\t𝜲χ\t𝜳ψ\t𝜴ω\t𝝇σ\t𝝖α\t𝝗β\t𝝘γ\t𝝙δ\t𝝚ε",
   "𝝛ζ\t𝝜η\t𝝝θ\t𝝞ι\t𝝟κ\t𝝠λ\t𝝡μ\t𝝢ν\t𝝣ξ\t𝝤ο\t𝝥π\t𝝦ρ\t𝝧θ\t𝝨σ\t𝝩τ\t𝝪υ\t𝝫φ\t𝝬χ\t𝝭ψ\t𝝮ω\t𝞁σ\t𝞐α\t𝞑β\t𝞒γ",
   "𝞓δ\t𝞔ε\t𝞕ζ\t𝞖η\t𝞗θ\t𝞘ι\t𝞙κ\t𝞚λ\t𝞛μ\t𝞜ν\t𝞝ξ\t𝞞ο\t𝞟π\t𝞠ρ\t𝞡θ\t𝞢σ\t𝞣τ\t𝞤υ\t𝞥φ\t𝞦χ\t𝞧ψ\t𝞨ω\t𝞻σ\t𞤀𞤢",
   "𞤁𞤣\t𞤂𞤤\t𞤃𞤥\t𞤄𞤦\t𞤅𞤧\t𞤆𞤨\t𞤇𞤩\t𞤈𞤪\t𞤉𞤫\t𞤊𞤬\t𞤋𞤭\t𞤌𞤮\t𞤍𞤯\t𞤎𞤰\t𞤏𞤱\t𞤐𞤲\t𞤑𞤳\t𞤒𞤴\t𞤓𞤵\t𞤔𞤶\t𞤕𞤷\t𞤖𞤸\t𞤗𞤹\t𞤘𞤺",
   "𞤙𞤻\t𞤚𞤼\t𞤛𞤽\t𞤜𞤾\t𞤝𞤿\t𞤞𞥀\t𞤟𞥁\t𞤠𞥂\t𞤡𞥃"]

/-- What a character stands for, taken apart completely. -/
def decompositions : List String :=
  ["\xa0 \t¨ \u0308\tªa\t¯ \u0304\t²2\t³3\t´ \u0301\tµμ\t¸ \u0327\t¹1\tºo\t¼1⁄4\t½1⁄2\t¾3⁄4",
   "ÀA\u0300\tÁA\u0301\tÂA\u0302\tÃA\u0303\tÄA\u0308\tÅA\u030a\tÇC\u0327\tÈE\u0300\tÉE\u0301",
   "ÊE\u0302\tËE\u0308\tÌI\u0300\tÍI\u0301\tÎI\u0302\tÏI\u0308\tÑN\u0303\tÒO\u0300\tÓO\u0301",
   "ÔO\u0302\tÕO\u0303\tÖO\u0308\tÙU\u0300\tÚU\u0301\tÛU\u0302\tÜU\u0308\tÝY\u0301\tàa\u0300",
   "áa\u0301\tâa\u0302\tãa\u0303\täa\u0308\tåa\u030a\tçc\u0327\tèe\u0300\tée\u0301\têe\u0302",
   "ëe\u0308\tìi\u0300\tíi\u0301\tîi\u0302\tïi\u0308\tñn\u0303\tòo\u0300\tóo\u0301\tôo\u0302",
   "õo\u0303\töo\u0308\tùu\u0300\túu\u0301\tûu\u0302\tüu\u0308\týy\u0301\tÿy\u0308\tĀA\u0304",
   "āa\u0304\tĂA\u0306\tăa\u0306\tĄA\u0328\tąa\u0328\tĆC\u0301\tćc\u0301\tĈC\u0302\tĉc\u0302",
   "ĊC\u0307\tċc\u0307\tČC\u030c\tčc\u030c\tĎD\u030c\tďd\u030c\tĒE\u0304\tēe\u0304\tĔE\u0306",
   "ĕe\u0306\tĖE\u0307\tėe\u0307\tĘE\u0328\tęe\u0328\tĚE\u030c\těe\u030c\tĜG\u0302\tĝg\u0302",
   "ĞG\u0306\tğg\u0306\tĠG\u0307\tġg\u0307\tĢG\u0327\tģg\u0327\tĤH\u0302\tĥh\u0302\tĨI\u0303",
   "ĩi\u0303\tĪI\u0304\tīi\u0304\tĬI\u0306\tĭi\u0306\tĮI\u0328\tįi\u0328\tİI\u0307\tĲIJ\tĳij",
   "ĴJ\u0302\tĵj\u0302\tĶK\u0327\tķk\u0327\tĹL\u0301\tĺl\u0301\tĻL\u0327\tļl\u0327\tĽL\u030c",
   "ľl\u030c\tĿL·\tŀl·\tŃN\u0301\tńn\u0301\tŅN\u0327\tņn\u0327\tŇN\u030c\tňn\u030c\tŉʼn\tŌO\u0304",
   "ōo\u0304\tŎO\u0306\tŏo\u0306\tŐO\u030b\tőo\u030b\tŔR\u0301\tŕr\u0301\tŖR\u0327\tŗr\u0327",
   "ŘR\u030c\třr\u030c\tŚS\u0301\tśs\u0301\tŜS\u0302\tŝs\u0302\tŞS\u0327\tşs\u0327\tŠS\u030c",
   "šs\u030c\tŢT\u0327\tţt\u0327\tŤT\u030c\tťt\u030c\tŨU\u0303\tũu\u0303\tŪU\u0304\tūu\u0304",
   "ŬU\u0306\tŭu\u0306\tŮU\u030a\tůu\u030a\tŰU\u030b\tűu\u030b\tŲU\u0328\tųu\u0328\tŴW\u0302",
   "ŵw\u0302\tŶY\u0302\tŷy\u0302\tŸY\u0308\tŹZ\u0301\tźz\u0301\tŻZ\u0307\tżz\u0307\tŽZ\u030c",
   "žz\u030c\tſs\tƠO\u031b\tơo\u031b\tƯU\u031b\tưu\u031b\tǄDZ\u030c\tǅDz\u030c\tǆdz\u030c\tǇLJ",
   "ǈLj\tǉlj\tǊNJ\tǋNj\tǌnj\tǍA\u030c\tǎa\u030c\tǏI\u030c\tǐi\u030c\tǑO\u030c\tǒo\u030c\tǓU\u030c",
   "ǔu\u030c\tǕU\u0308\u0304\tǖu\u0308\u0304\tǗU\u0308\u0301\tǘu\u0308\u0301\tǙU\u0308\u030c",
   "ǚu\u0308\u030c\tǛU\u0308\u0300\tǜu\u0308\u0300\tǞA\u0308\u0304\tǟa\u0308\u0304\tǠA\u0307\u0304",
   "ǡa\u0307\u0304\tǢÆ\u0304\tǣæ\u0304\tǦG\u030c\tǧg\u030c\tǨK\u030c\tǩk\u030c\tǪO\u0328\tǫo\u0328",
   "ǬO\u0328\u0304\tǭo\u0328\u0304\tǮƷ\u030c\tǯʒ\u030c\tǰj\u030c\tǱDZ\tǲDz\tǳdz\tǴG\u0301",
   "ǵg\u0301\tǸN\u0300\tǹn\u0300\tǺA\u030a\u0301\tǻa\u030a\u0301\tǼÆ\u0301\tǽæ\u0301\tǾØ\u0301",
   "ǿø\u0301\tȀA\u030f\tȁa\u030f\tȂA\u0311\tȃa\u0311\tȄE\u030f\tȅe\u030f\tȆE\u0311\tȇe\u0311",
   "ȈI\u030f\tȉi\u030f\tȊI\u0311\tȋi\u0311\tȌO\u030f\tȍo\u030f\tȎO\u0311\tȏo\u0311\tȐR\u030f",
   "ȑr\u030f\tȒR\u0311\tȓr\u0311\tȔU\u030f\tȕu\u030f\tȖU\u0311\tȗu\u0311\tȘS\u0326\tșs\u0326",
   "ȚT\u0326\tțt\u0326\tȞH\u030c\tȟh\u030c\tȦA\u0307\tȧa\u0307\tȨE\u0327\tȩe\u0327\tȪO\u0308\u0304",
   "ȫo\u0308\u0304\tȬO\u0303\u0304\tȭo\u0303\u0304\tȮO\u0307\tȯo\u0307\tȰO\u0307\u0304",
   "ȱo\u0307\u0304\tȲY\u0304\tȳy\u0304\tʰh\tʱɦ\tʲj\tʳr\tʴɹ\tʵɻ\tʶʁ\tʷw\tʸy\t˘ \u0306\t˙ \u0307",
   "˚ \u030a\t˛ \u0328\t˜ \u0303\t˝ \u030b\tˠɣ\tˡl\tˢs\tˣx\tˤʕ\t\u0340\u0300\t\u0341\u0301",
   "\u0343\u0313\t\u0344\u0308\u0301\tʹʹ\tͺ \u0345\t;;\t΄ \u0301\t΅ \u0308\u0301\tΆΑ\u0301\t··",
   "ΈΕ\u0301\tΉΗ\u0301\tΊΙ\u0301\tΌΟ\u0301\tΎΥ\u0301\tΏΩ\u0301\tΐι\u0308\u0301\tΪΙ\u0308\tΫΥ\u0308",
   "άα\u0301\tέε\u0301\tήη\u0301\tίι\u0301\tΰυ\u0308\u0301\tϊι\u0308\tϋυ\u0308\tόο\u0301\tύυ\u0301",
   "ώω\u0301\tϐβ\tϑθ\tϒΥ\tϓΥ\u0301\tϔΥ\u0308\tϕφ\tϖπ\tϰκ\tϱρ\tϲς\tϴΘ\tϵε\tЀЕ\u0300\tЁЕ\u0308",
   "ЃГ\u0301\tЇІ\u0308\tЌК\u0301\tЍИ\u0300\tЎУ\u0306\tЙИ\u0306\tйи\u0306\tѐе\u0300\tёе\u0308",
   "ѓг\u0301\tїі\u0308\tќк\u0301\tѝи\u0300\tўу\u0306\tѶѴ\u030f\tѷѵ\u030f\tӁЖ\u0306\tӂж\u0306",
   "ӐА\u0306\tӑа\u0306\tӒА\u0308\tӓа\u0308\tӖЕ\u0306\tӗе\u0306\tӚӘ\u0308\tӛә\u0308\tӜЖ\u0308",
   "ӝж\u0308\tӞЗ\u0308\tӟз\u0308\tӢИ\u0304\tӣи\u0304\tӤИ\u0308\tӥи\u0308\tӦО\u0308\tӧо\u0308",
   "ӪӨ\u0308\tӫө\u0308\tӬЭ\u0308\tӭэ\u0308\tӮУ\u0304\tӯу\u0304\tӰУ\u0308\tӱу\u0308\tӲУ\u030b",
   "ӳу\u030b\tӴЧ\u0308\tӵч\u0308\tӸЫ\u0308\tӹы\u0308\tևեւ\t\u0622\u0627\u0653\t\u0623\u0627\u0654",
   "\u0624\u0648\u0654\t\u0625\u0627\u0655\t\u0626\u064a\u0654\t\u0675\u0627\u0674",
   "\u0676\u0648\u0674\t\u0677\u06c7\u0674\t\u0678\u064a\u0674\t\u06c0\u06d5\u0654",
   "\u06c2\u06c1\u0654\t\u06d3\u06d2\u0654\tऩन\u093c\tऱर\u093c\tऴळ\u093c\tक़क\u093c\tख़ख\u093c",
   "ग़ग\u093c\tज़ज\u093c\tड़ड\u093c\tढ़ढ\u093c\tफ़फ\u093c\tय़य\u093c\t\u09cb\u09c7\u09be",
   "\u09cc\u09c7\u09d7\tড়ড\u09bc\tঢ়ঢ\u09bc\tয়য\u09bc\tਲ਼ਲ\u0a3c\tਸ਼ਸ\u0a3c\tਖ਼ਖ\u0a3c\tਗ਼ਗ\u0a3c",
   "ਜ਼ਜ\u0a3c\tਫ਼ਫ\u0a3c\t\u0b48\u0b47\u0b56\t\u0b4b\u0b47\u0b3e\t\u0b4c\u0b47\u0b57\tଡ଼ଡ\u0b3c",
   "ଢ଼ଢ\u0b3c\tஔஒ\u0bd7\t\u0bca\u0bc6\u0bbe\t\u0bcb\u0bc7\u0bbe\t\u0bcc\u0bc6\u0bd7",
   "\u0c48\u0c46\u0c56\t\u0cc0\u0cbf\u0cd5\t\u0cc7\u0cc6\u0cd5\t\u0cc8\u0cc6\u0cd6",
   "\u0cca\u0cc6\u0cc2\t\u0ccb\u0cc6\u0cc2\u0cd5\t\u0d4a\u0d46\u0d3e\t\u0d4b\u0d47\u0d3e",
   "\u0d4c\u0d46\u0d57\t\u0dda\u0dd9\u0dca\t\u0ddc\u0dd9\u0dcf\t\u0ddd\u0dd9\u0dcf\u0dca",
   "\u0dde\u0dd9\u0ddf\tำ\u0e4dา\tຳ\u0ecdາ\tໜຫນ\tໝຫມ\t༌་\tགྷག\u0fb7\tཌྷཌ\u0fb7\tདྷད\u0fb7\tབྷབ\u0fb7",
   "ཛྷཛ\u0fb7\tཀྵཀ\u0fb5\t\u0f73\u0f71\u0f72\t\u0f75\u0f71\u0f74\t\u0f76\u0fb2\u0f80",
   "\u0f77\u0fb2\u0f71\u0f80\t\u0f78\u0fb3\u0f80\t\u0f79\u0fb3\u0f71\u0f80\t\u0f81\u0f71\u0f80",
   "\u0f93\u0f92\u0fb7\t\u0f9d\u0f9c\u0fb7\t\u0fa2\u0fa1\u0fb7\t\u0fa7\u0fa6\u0fb7",
   "\u0fac\u0fab\u0fb7\t\u0fb9\u0f90\u0fb5\tဦဥ\u102e\tḀA\u0325\tḁa\u0325\tḂB\u0307\tḃb\u0307",
   "ḄB\u0323\tḅb\u0323\tḆB\u0331\tḇb\u0331\tḈC\u0327\u0301\tḉc\u0327\u0301\tḊD\u0307\tḋd\u0307",
   "ḌD\u0323\tḍd\u0323\tḎD\u0331\tḏd\u0331\tḐD\u0327\tḑd\u0327\tḒD\u032d\tḓd\u032d\tḔE\u0304\u0300",
   "ḕe\u0304\u0300\tḖE\u0304\u0301\tḗe\u0304\u0301\tḘE\u032d\tḙe\u032d\tḚE\u0330\tḛe\u0330",
   "ḜE\u0327\u0306\tḝe\u0327\u0306\tḞF\u0307\tḟf\u0307\tḠG\u0304\tḡg\u0304\tḢH\u0307\tḣh\u0307",
   "ḤH\u0323\tḥh\u0323\tḦH\u0308\tḧh\u0308\tḨH\u0327\tḩh\u0327\tḪH\u032e\tḫh\u032e\tḬI\u0330",
   "ḭi\u0330\tḮI\u0308\u0301\tḯi\u0308\u0301\tḰK\u0301\tḱk\u0301\tḲK\u0323\tḳk\u0323\tḴK\u0331",
   "ḵk\u0331\tḶL\u0323\tḷl\u0323\tḸL\u0323\u0304\tḹl\u0323\u0304\tḺL\u0331\tḻl\u0331\tḼL\u032d",
   "ḽl\u032d\tḾM\u0301\tḿm\u0301\tṀM\u0307\tṁm\u0307\tṂM\u0323\tṃm\u0323\tṄN\u0307\tṅn\u0307",
   "ṆN\u0323\tṇn\u0323\tṈN\u0331\tṉn\u0331\tṊN\u032d\tṋn\u032d\tṌO\u0303\u0301\tṍo\u0303\u0301",
   "ṎO\u0303\u0308\tṏo\u0303\u0308\tṐO\u0304\u0300\tṑo\u0304\u0300\tṒO\u0304\u0301\tṓo\u0304\u0301",
   "ṔP\u0301\tṕp\u0301\tṖP\u0307\tṗp\u0307\tṘR\u0307\tṙr\u0307\tṚR\u0323\tṛr\u0323\tṜR\u0323\u0304",
   "ṝr\u0323\u0304\tṞR\u0331\tṟr\u0331\tṠS\u0307\tṡs\u0307\tṢS\u0323\tṣs\u0323\tṤS\u0301\u0307",
   "ṥs\u0301\u0307\tṦS\u030c\u0307\tṧs\u030c\u0307\tṨS\u0323\u0307\tṩs\u0323\u0307\tṪT\u0307",
   "ṫt\u0307\tṬT\u0323\tṭt\u0323\tṮT\u0331\tṯt\u0331\tṰT\u032d\tṱt\u032d\tṲU\u0324\tṳu\u0324",
   "ṴU\u0330\tṵu\u0330\tṶU\u032d\tṷu\u032d\tṸU\u0303\u0301\tṹu\u0303\u0301\tṺU\u0304\u0308",
   "ṻu\u0304\u0308\tṼV\u0303\tṽv\u0303\tṾV\u0323\tṿv\u0323\tẀW\u0300\tẁw\u0300\tẂW\u0301\tẃw\u0301",
   "ẄW\u0308\tẅw\u0308\tẆW\u0307\tẇw\u0307\tẈW\u0323\tẉw\u0323\tẊX\u0307\tẋx\u0307\tẌX\u0308",
   "ẍx\u0308\tẎY\u0307\tẏy\u0307\tẐZ\u0302\tẑz\u0302\tẒZ\u0323\tẓz\u0323\tẔZ\u0331\tẕz\u0331",
   "ẖh\u0331\tẗt\u0308\tẘw\u030a\tẙy\u030a\tẚaʾ\tẛs\u0307\tẠA\u0323\tạa\u0323\tẢA\u0309\tảa\u0309",
   "ẤA\u0302\u0301\tấa\u0302\u0301\tẦA\u0302\u0300\tầa\u0302\u0300\tẨA\u0302\u0309\tẩa\u0302\u0309",
   "ẪA\u0302\u0303\tẫa\u0302\u0303\tẬA\u0323\u0302\tậa\u0323\u0302\tẮA\u0306\u0301\tắa\u0306\u0301",
   "ẰA\u0306\u0300\tằa\u0306\u0300\tẲA\u0306\u0309\tẳa\u0306\u0309\tẴA\u0306\u0303\tẵa\u0306\u0303",
   "ẶA\u0323\u0306\tặa\u0323\u0306\tẸE\u0323\tẹe\u0323\tẺE\u0309\tẻe\u0309\tẼE\u0303\tẽe\u0303",
   "ẾE\u0302\u0301\tếe\u0302\u0301\tỀE\u0302\u0300\tềe\u0302\u0300\tỂE\u0302\u0309\tểe\u0302\u0309",
   "ỄE\u0302\u0303\tễe\u0302\u0303\tỆE\u0323\u0302\tệe\u0323\u0302\tỈI\u0309\tỉi\u0309\tỊI\u0323",
   "ịi\u0323\tỌO\u0323\tọo\u0323\tỎO\u0309\tỏo\u0309\tỐO\u0302\u0301\tốo\u0302\u0301",
   "ỒO\u0302\u0300\tồo\u0302\u0300\tỔO\u0302\u0309\tổo\u0302\u0309\tỖO\u0302\u0303\tỗo\u0302\u0303",
   "ỘO\u0323\u0302\tộo\u0323\u0302\tỚO\u031b\u0301\tớo\u031b\u0301\tỜO\u031b\u0300\tờo\u031b\u0300",
   "ỞO\u031b\u0309\tởo\u031b\u0309\tỠO\u031b\u0303\tỡo\u031b\u0303\tỢO\u031b\u0323\tợo\u031b\u0323",
   "ỤU\u0323\tụu\u0323\tỦU\u0309\tủu\u0309\tỨU\u031b\u0301\tứu\u031b\u0301\tỪU\u031b\u0300",
   "ừu\u031b\u0300\tỬU\u031b\u0309\tửu\u031b\u0309\tỮU\u031b\u0303\tữu\u031b\u0303\tỰU\u031b\u0323",
   "ựu\u031b\u0323\tỲY\u0300\tỳy\u0300\tỴY\u0323\tỵy\u0323\tỶY\u0309\tỷy\u0309\tỸY\u0303\tỹy\u0303",
   "ἀα\u0313\tἁα\u0314\tἂα\u0313\u0300\tἃα\u0314\u0300\tἄα\u0313\u0301\tἅα\u0314\u0301",
   "ἆα\u0313\u0342\tἇα\u0314\u0342\tἈΑ\u0313\tἉΑ\u0314\tἊΑ\u0313\u0300\tἋΑ\u0314\u0300",
   "ἌΑ\u0313\u0301\tἍΑ\u0314\u0301\tἎΑ\u0313\u0342\tἏΑ\u0314\u0342\tἐε\u0313\tἑε\u0314",
   "ἒε\u0313\u0300\tἓε\u0314\u0300\tἔε\u0313\u0301\tἕε\u0314\u0301\tἘΕ\u0313\tἙΕ\u0314",
   "ἚΕ\u0313\u0300\tἛΕ\u0314\u0300\tἜΕ\u0313\u0301\tἝΕ\u0314\u0301\tἠη\u0313\tἡη\u0314",
   "ἢη\u0313\u0300\tἣη\u0314\u0300\tἤη\u0313\u0301\tἥη\u0314\u0301\tἦη\u0313\u0342\tἧη\u0314\u0342",
   "ἨΗ\u0313\tἩΗ\u0314\tἪΗ\u0313\u0300\tἫΗ\u0314\u0300\tἬΗ\u0313\u0301\tἭΗ\u0314\u0301",
   "ἮΗ\u0313\u0342\tἯΗ\u0314\u0342\tἰι\u0313\tἱι\u0314\tἲι\u0313\u0300\tἳι\u0314\u0300",
   "ἴι\u0313\u0301\tἵι\u0314\u0301\tἶι\u0313\u0342\tἷι\u0314\u0342\tἸΙ\u0313\tἹΙ\u0314",
   "ἺΙ\u0313\u0300\tἻΙ\u0314\u0300\tἼΙ\u0313\u0301\tἽΙ\u0314\u0301\tἾΙ\u0313\u0342\tἿΙ\u0314\u0342",
   "ὀο\u0313\tὁο\u0314\tὂο\u0313\u0300\tὃο\u0314\u0300\tὄο\u0313\u0301\tὅο\u0314\u0301\tὈΟ\u0313",
   "ὉΟ\u0314\tὊΟ\u0313\u0300\tὋΟ\u0314\u0300\tὌΟ\u0313\u0301\tὍΟ\u0314\u0301\tὐυ\u0313\tὑυ\u0314",
   "ὒυ\u0313\u0300\tὓυ\u0314\u0300\tὔυ\u0313\u0301\tὕυ\u0314\u0301\tὖυ\u0313\u0342\tὗυ\u0314\u0342",
   "ὙΥ\u0314\tὛΥ\u0314\u0300\tὝΥ\u0314\u0301\tὟΥ\u0314\u0342\tὠω\u0313\tὡω\u0314\tὢω\u0313\u0300",
   "ὣω\u0314\u0300\tὤω\u0313\u0301\tὥω\u0314\u0301\tὦω\u0313\u0342\tὧω\u0314\u0342\tὨΩ\u0313",
   "ὩΩ\u0314\tὪΩ\u0313\u0300\tὫΩ\u0314\u0300\tὬΩ\u0313\u0301\tὭΩ\u0314\u0301\tὮΩ\u0313\u0342",
   "ὯΩ\u0314\u0342\tὰα\u0300\tάα\u0301\tὲε\u0300\tέε\u0301\tὴη\u0300\tήη\u0301\tὶι\u0300\tίι\u0301",
   "ὸο\u0300\tόο\u0301\tὺυ\u0300\tύυ\u0301\tὼω\u0300\tώω\u0301\tᾀα\u0313\u0345\tᾁα\u0314\u0345",
   "ᾂα\u0313\u0300\u0345\tᾃα\u0314\u0300\u0345\tᾄα\u0313\u0301\u0345\tᾅα\u0314\u0301\u0345",
   "ᾆα\u0313\u0342\u0345\tᾇα\u0314\u0342\u0345\tᾈΑ\u0313\u0345\tᾉΑ\u0314\u0345",
   "ᾊΑ\u0313\u0300\u0345\tᾋΑ\u0314\u0300\u0345\tᾌΑ\u0313\u0301\u0345\tᾍΑ\u0314\u0301\u0345",
   "ᾎΑ\u0313\u0342\u0345\tᾏΑ\u0314\u0342\u0345\tᾐη\u0313\u0345\tᾑη\u0314\u0345",
   "ᾒη\u0313\u0300\u0345\tᾓη\u0314\u0300\u0345\tᾔη\u0313\u0301\u0345\tᾕη\u0314\u0301\u0345",
   "ᾖη\u0313\u0342\u0345\tᾗη\u0314\u0342\u0345\tᾘΗ\u0313\u0345\tᾙΗ\u0314\u0345",
   "ᾚΗ\u0313\u0300\u0345\tᾛΗ\u0314\u0300\u0345\tᾜΗ\u0313\u0301\u0345\tᾝΗ\u0314\u0301\u0345",
   "ᾞΗ\u0313\u0342\u0345\tᾟΗ\u0314\u0342\u0345\tᾠω\u0313\u0345\tᾡω\u0314\u0345",
   "ᾢω\u0313\u0300\u0345\tᾣω\u0314\u0300\u0345\tᾤω\u0313\u0301\u0345\tᾥω\u0314\u0301\u0345",
   "ᾦω\u0313\u0342\u0345\tᾧω\u0314\u0342\u0345\tᾨΩ\u0313\u0345\tᾩΩ\u0314\u0345",
   "ᾪΩ\u0313\u0300\u0345\tᾫΩ\u0314\u0300\u0345\tᾬΩ\u0313\u0301\u0345\tᾭΩ\u0314\u0301\u0345",
   "ᾮΩ\u0313\u0342\u0345\tᾯΩ\u0314\u0342\u0345\tᾰα\u0306\tᾱα\u0304\tᾲα\u0300\u0345\tᾳα\u0345",
   "ᾴα\u0301\u0345\tᾶα\u0342\tᾷα\u0342\u0345\tᾸΑ\u0306\tᾹΑ\u0304\tᾺΑ\u0300\tΆΑ\u0301\tᾼΑ\u0345",
   "᾽ \u0313\tιι\t᾿ \u0313\t῀ \u0342\t῁ \u0308\u0342\tῂη\u0300\u0345\tῃη\u0345\tῄη\u0301\u0345",
   "ῆη\u0342\tῇη\u0342\u0345\tῈΕ\u0300\tΈΕ\u0301\tῊΗ\u0300\tΉΗ\u0301\tῌΗ\u0345\t῍ \u0313\u0300",
   "῎ \u0313\u0301\t῏ \u0313\u0342\tῐι\u0306\tῑι\u0304\tῒι\u0308\u0300\tΐι\u0308\u0301\tῖι\u0342",
   "ῗι\u0308\u0342\tῘΙ\u0306\tῙΙ\u0304\tῚΙ\u0300\tΊΙ\u0301\t῝ \u0314\u0300\t῞ \u0314\u0301",
   "῟ \u0314\u0342\tῠυ\u0306\tῡυ\u0304\tῢυ\u0308\u0300\tΰυ\u0308\u0301\tῤρ\u0313\tῥρ\u0314",
   "ῦυ\u0342\tῧυ\u0308\u0342\tῨΥ\u0306\tῩΥ\u0304\tῪΥ\u0300\tΎΥ\u0301\tῬΡ\u0314\t῭ \u0308\u0300",
   "΅ \u0308\u0301\t``\tῲω\u0300\u0345\tῳω\u0345\tῴω\u0301\u0345\tῶω\u0342\tῷω\u0342\u0345",
   "ῸΟ\u0300\tΌΟ\u0301\tῺΩ\u0300\tΏΩ\u0301\tῼΩ\u0345\t´ \u0301\t῾ \u0314\t\u2000 \t\u2001 ",
   "\u2002 \t\u2003 \t\u2004 \t\u2005 \t\u2006 \t\u2007 \t\u2008 \t\u2009 \t\u200a \t‑‐\t‗ \u0333",
   "․.\t‥..\t…...\t\u202f \t″′′\t‴′′′\t‶‵‵\t‷‵‵‵\t‼!!\t‾ \u0305\t⁇??\t⁈?!\t⁉!?\t⁗′′′′\t\u205f \t⁰0",
   "ⁱi\t⁴4\t⁵5\t⁶6\t⁷7\t⁸8\t⁹9\t⁺+\t⁻−\t⁼=\t⁽(\t⁾)\tⁿn\t₀0\t₁1\t₂2\t₃3\t₄4\t₅5\t₆6\t₇7\t₈8\t₉9\t₊+",
   "₋−\t₌=\t₍(\t₎)\t₨Rs\t℀a/c\t℁a/s\tℂC\t℃°C\t℅c/o\t℆c/u\tℇƐ\t℉°F\tℊg\tℋH\tℌH\tℍH\tℎh\tℏħ\tℐI\tℑI",
   "ℒL\tℓl\tℕN\t№No\tℙP\tℚQ\tℛR\tℜR\tℝR\t℠SM\t℡TEL\t™TM\tℤZ\tΩΩ\tℨZ\tKK\tÅA\u030a\tℬB\tℭC\tℯe\tℰE",
   "ℱF\tℳM\tℴo\tℵ\u05d0\tℶ\u05d1\tℷ\u05d2\tℸ\u05d3\tℹi\tℽγ\tℾΓ\tℿΠ\t⅀∑\tⅅD\tⅆd\tⅇe\tⅈi\tⅉj\t⅓1⁄3",
   "⅔2⁄3\t⅕1⁄5\t⅖2⁄5\t⅗3⁄5\t⅘4⁄5\t⅙1⁄6\t⅚5⁄6\t⅛1⁄8\t⅜3⁄8\t⅝5⁄8\t⅞7⁄8\t⅟1⁄\tⅠI\tⅡII\tⅢIII\tⅣIV\tⅤV",
   "ⅥVI\tⅦVII\tⅧVIII\tⅨIX\tⅩX\tⅪXI\tⅫXII\tⅬL\tⅭC\tⅮD\tⅯM\tⅰi\tⅱii\tⅲiii\tⅳiv\tⅴv\tⅵvi\tⅶvii\tⅷviii",
   "ⅸix\tⅹx\tⅺxi\tⅻxii\tⅼl\tⅽc\tⅾd\tⅿm\t↚←\u0338\t↛→\u0338\t↮↔\u0338\t⇍⇐\u0338\t⇎⇔\u0338\t⇏⇒\u0338",
   "∄∃\u0338\t∉∈\u0338\t∌∋\u0338\t∤∣\u0338\t∦∥\u0338\t∬∫∫\t∭∫∫∫\t∯∮∮\t∰∮∮∮\t≁∼\u0338\t≄≃\u0338",
   "≇≅\u0338\t≉≈\u0338\t≠=\u0338\t≢≡\u0338\t≭≍\u0338\t≮<\u0338\t≯>\u0338\t≰≤\u0338\t≱≥\u0338",
   "≴≲\u0338\t≵≳\u0338\t≸≶\u0338\t≹≷\u0338\t⊀≺\u0338\t⊁≻\u0338\t⊄⊂\u0338\t⊅⊃\u0338\t⊈⊆\u0338",
   "⊉⊇\u0338\t⊬⊢\u0338\t⊭⊨\u0338\t⊮⊩\u0338\t⊯⊫\u0338\t⋠≼\u0338\t⋡≽\u0338\t⋢⊑\u0338\t⋣⊒\u0338",
   "⋪⊲\u0338\t⋫⊳\u0338\t⋬⊴\u0338\t⋭⊵\u0338\t〈〈\t〉〉\t①1\t②2\t③3\t④4\t⑤5\t⑥6\t⑦7\t⑧8\t⑨9\t⑩10\t⑪11",
   "⑫12\t⑬13\t⑭14\t⑮15\t⑯16\t⑰17\t⑱18\t⑲19\t⑳20\t⑴(1)\t⑵(2)\t⑶(3)\t⑷(4)\t⑸(5)\t⑹(6)\t⑺(7)\t⑻(8)",
   "⑼(9)\t⑽(10)\t⑾(11)\t⑿(12)\t⒀(13)\t⒁(14)\t⒂(15)\t⒃(16)\t⒄(17)\t⒅(18)\t⒆(19)\t⒇(20)\t⒈1.\t⒉2.",
   "⒊3.\t⒋4.\t⒌5.\t⒍6.\t⒎7.\t⒏8.\t⒐9.\t⒑10.\t⒒11.\t⒓12.\t⒔13.\t⒕14.\t⒖15.\t⒗16.\t⒘17.\t⒙18.\t⒚19.",
   "⒛20.\t⒜(a)\t⒝(b)\t⒞(c)\t⒟(d)\t⒠(e)\t⒡(f)\t⒢(g)\t⒣(h)\t⒤(i)\t⒥(j)\t⒦(k)\t⒧(l)\t⒨(m)\t⒩(n)\t⒪(o)",
   "⒫(p)\t⒬(q)\t⒭(r)\t⒮(s)\t⒯(t)\t⒰(u)\t⒱(v)\t⒲(w)\t⒳(x)\t⒴(y)\t⒵(z)\tⒶA\tⒷB\tⒸC\tⒹD\tⒺE\tⒻF\tⒼG",
   "ⒽH\tⒾI\tⒿJ\tⓀK\tⓁL\tⓂM\tⓃN\tⓄO\tⓅP\tⓆQ\tⓇR\tⓈS\tⓉT\tⓊU\tⓋV\tⓌW\tⓍX\tⓎY\tⓏZ\tⓐa\tⓑb\tⓒc\tⓓd\tⓔe",
   "ⓕf\tⓖg\tⓗh\tⓘi\tⓙj\tⓚk\tⓛl\tⓜm\tⓝn\tⓞo\tⓟp\tⓠq\tⓡr\tⓢs\tⓣt\tⓤu\tⓥv\tⓦw\tⓧx\tⓨy\tⓩz\t⓪0\t⨌∫∫∫∫",
   "⩴::=\t⩵==\t⩶===\t⫝̸⫝\u0338\t⺟母\t⻳龟\t⼀一\t⼁丨\t⼂丶\t⼃丿\t⼄乙\t⼅亅\t⼆二\t⼇亠\t⼈人\t⼉儿\t⼊入\t⼋八\t⼌冂\t⼍冖\t⼎冫",
   "⼏几\t⼐凵\t⼑刀\t⼒力\t⼓勹\t⼔匕\t⼕匚\t⼖匸\t⼗十\t⼘卜\t⼙卩\t⼚厂\t⼛厶\t⼜又\t⼝口\t⼞囗\t⼟土\t⼠士\t⼡夂\t⼢夊\t⼣夕\t⼤大\t⼥女\t⼦子",
   "⼧宀\t⼨寸\t⼩小\t⼪尢\t⼫尸\t⼬屮\t⼭山\t⼮巛\t⼯工\t⼰己\t⼱巾\t⼲干\t⼳幺\t⼴广\t⼵廴\t⼶廾\t⼷弋\t⼸弓\t⼹彐\t⼺彡\t⼻彳\t⼼心\t⼽戈\t⼾戶",
   "⼿手\t⽀支\t⽁攴\t⽂文\t⽃斗\t⽄斤\t⽅方\t⽆无\t⽇日\t⽈曰\t⽉月\t⽊木\t⽋欠\t⽌止\t⽍歹\t⽎殳\t⽏毋\t⽐比\t⽑毛\t⽒氏\t⽓气\t⽔水\t⽕火\t⽖爪",
   "⽗父\t⽘爻\t⽙爿\t⽚片\t⽛牙\t⽜牛\t⽝犬\t⽞玄\t⽟玉\t⽠瓜\t⽡瓦\t⽢甘\t⽣生\t⽤用\t⽥田\t⽦疋\t⽧疒\t⽨癶\t⽩白\t⽪皮\t⽫皿\t⽬目\t⽭矛\t⽮矢",
   "⽯石\t⽰示\t⽱禸\t⽲禾\t⽳穴\t⽴立\t⽵竹\t⽶米\t⽷糸\t⽸缶\t⽹网\t⽺羊\t⽻羽\t⽼老\t⽽而\t⽾耒\t⽿耳\t⾀聿\t⾁肉\t⾂臣\t⾃自\t⾄至\t⾅臼\t⾆舌",
   "⾇舛\t⾈舟\t⾉艮\t⾊色\t⾋艸\t⾌虍\t⾍虫\t⾎血\t⾏行\t⾐衣\t⾑襾\t⾒見\t⾓角\t⾔言\t⾕谷\t⾖豆\t⾗豕\t⾘豸\t⾙貝\t⾚赤\t⾛走\t⾜足\t⾝身\t⾞車",
   "⾟辛\t⾠辰\t⾡辵\t⾢邑\t⾣酉\t⾤釆\t⾥里\t⾦金\t⾧長\t⾨門\t⾩阜\t⾪隶\t⾫隹\t⾬雨\t⾭靑\t⾮非\t⾯面\t⾰革\t⾱韋\t⾲韭\t⾳音\t⾴頁\t⾵風\t⾶飛",
   "⾷食\t⾸首\t⾹香\t⾺馬\t⾻骨\t⾼高\t⾽髟\t⾾鬥\t⾿鬯\t⿀鬲\t⿁鬼\t⿂魚\t⿃鳥\t⿄鹵\t⿅鹿\t⿆麥\t⿇麻\t⿈黃\t⿉黍\t⿊黑\t⿋黹\t⿌黽\t⿍鼎\t⿎鼓",
   "⿏鼠\t⿐鼻\t⿑齊\t⿒齒\t⿓龍\t⿔龜\t⿕龠\t\u3000 \t〶〒\t〸十\t〹卄\t〺卅\tがか\u3099\tぎき\u3099\tぐく\u3099\tげけ\u3099",
   "ごこ\u3099\tざさ\u3099\tじし\u3099\tずす\u3099\tぜせ\u3099\tぞそ\u3099\tだた\u3099\tぢち\u3099\tづつ\u3099",
   "でて\u3099\tどと\u3099\tばは\u3099\tぱは\u309a\tびひ\u3099\tぴひ\u309a\tぶふ\u3099\tぷふ\u309a\tべへ\u3099",
   "ぺへ\u309a\tぼほ\u3099\tぽほ\u309a\tゔう\u3099\t゛ \u3099\t゜ \u309a\tゞゝ\u3099\tゟより\tガカ\u3099\tギキ\u3099",
   "グク\u3099\tゲケ\u3099\tゴコ\u3099\tザサ\u3099\tジシ\u3099\tズス\u3099\tゼセ\u3099\tゾソ\u3099\tダタ\u3099",
   "ヂチ\u3099\tヅツ\u3099\tデテ\u3099\tドト\u3099\tバハ\u3099\tパハ\u309a\tビヒ\u3099\tピヒ\u309a\tブフ\u3099",
   "プフ\u309a\tベヘ\u3099\tペヘ\u309a\tボホ\u3099\tポホ\u309a\tヴウ\u3099\tヷワ\u3099\tヸヰ\u3099\tヹヱ\u3099",
   "ヺヲ\u3099\tヾヽ\u3099\tヿコト\tㄱᄀ\tㄲᄁ\tㄳᆪ\tㄴᄂ\tㄵᆬ\tㄶᆭ\tㄷᄃ\tㄸᄄ\tㄹᄅ\tㄺᆰ\tㄻᆱ\tㄼᆲ\tㄽᆳ\tㄾᆴ\tㄿᆵ\tㅀᄚ\tㅁᄆ",
   "ㅂᄇ\tㅃᄈ\tㅄᄡ\tㅅᄉ\tㅆᄊ\tㅇᄋ\tㅈᄌ\tㅉᄍ\tㅊᄎ\tㅋᄏ\tㅌᄐ\tㅍᄑ\tㅎᄒ\tㅏᅡ\tㅐᅢ\tㅑᅣ\tㅒᅤ\tㅓᅥ\tㅔᅦ\tㅕᅧ\tㅖᅨ\tㅗᅩ\tㅘᅪ\tㅙᅫ",
   "ㅚᅬ\tㅛᅭ\tㅜᅮ\tㅝᅯ\tㅞᅰ\tㅟᅱ\tㅠᅲ\tㅡᅳ\tㅢᅴ\tㅣᅵ\tㅤᅠ\tㅥᄔ\tㅦᄕ\tㅧᇇ\tㅨᇈ\tㅩᇌ\tㅪᇎ\tㅫᇓ\tㅬᇗ\tㅭᇙ\tㅮᄜ\tㅯᇝ\tㅰᇟ\tㅱᄝ",
   "ㅲᄞ\tㅳᄠ\tㅴᄢ\tㅵᄣ\tㅶᄧ\tㅷᄩ\tㅸᄫ\tㅹᄬ\tㅺᄭ\tㅻᄮ\tㅼᄯ\tㅽᄲ\tㅾᄶ\tㅿᅀ\tㆀᅇ\tㆁᅌ\tㆂᇱ\tㆃᇲ\tㆄᅗ\tㆅᅘ\tㆆᅙ\tㆇᆄ\tㆈᆅ\tㆉᆈ",
   "ㆊᆑ\tㆋᆒ\tㆌᆔ\tㆍᆞ\tㆎᆡ\t㆒一\t㆓二\t㆔三\t㆕四\t㆖上\t㆗中\t㆘下\t㆙甲\t㆚乙\t㆛丙\t㆜丁\t㆝天\t㆞地\t㆟人\t㈀(ᄀ)\t㈁(ᄂ)\t㈂(ᄃ)",
   "㈃(ᄅ)\t㈄(ᄆ)\t㈅(ᄇ)\t㈆(ᄉ)\t㈇(ᄋ)\t㈈(ᄌ)\t㈉(ᄎ)\t㈊(ᄏ)\t㈋(ᄐ)\t㈌(ᄑ)\t㈍(ᄒ)\t㈎(가)\t㈏(나)\t㈐(다)\t㈑(라)",
   "㈒(마)\t㈓(바)\t㈔(사)\t㈕(아)\t㈖(자)\t㈗(차)\t㈘(카)\t㈙(타)\t㈚(파)\t㈛(하)\t㈜(주)\t㈠(一)\t㈡(二)\t㈢(三)",
   "㈣(四)\t㈤(五)\t㈥(六)\t㈦(七)\t㈧(八)\t㈨(九)\t㈩(十)\t㈪(月)\t㈫(火)\t㈬(水)\t㈭(木)\t㈮(金)\t㈯(土)\t㈰(日)\t㈱(株)\t㈲(有)",
   "㈳(社)\t㈴(名)\t㈵(特)\t㈶(財)\t㈷(祝)\t㈸(労)\t㈹(代)\t㈺(呼)\t㈻(学)\t㈼(監)\t㈽(企)\t㈾(資)\t㈿(協)\t㉀(祭)\t㉁(休)\t㉂(自)",
   "㉃(至)\t㉑21\t㉒22\t㉓23\t㉔24\t㉕25\t㉖26\t㉗27\t㉘28\t㉙29\t㉚30\t㉛31\t㉜32\t㉝33\t㉞34\t㉟35\t㉠ᄀ\t㉡ᄂ\t㉢ᄃ",
   "㉣ᄅ\t㉤ᄆ\t㉥ᄇ\t㉦ᄉ\t㉧ᄋ\t㉨ᄌ\t㉩ᄎ\t㉪ᄏ\t㉫ᄐ\t㉬ᄑ\t㉭ᄒ\t㉮가\t㉯나\t㉰다\t㉱라\t㉲마\t㉳바\t㉴사\t㉵아\t㉶자\t㉷차",
   "㉸카\t㉹타\t㉺파\t㉻하\t㊀一\t㊁二\t㊂三\t㊃四\t㊄五\t㊅六\t㊆七\t㊇八\t㊈九\t㊉十\t㊊月\t㊋火\t㊌水\t㊍木\t㊎金\t㊏土\t㊐日\t㊑株\t㊒有",
   "㊓社\t㊔名\t㊕特\t㊖財\t㊗祝\t㊘労\t㊙秘\t㊚男\t㊛女\t㊜適\t㊝優\t㊞印\t㊟注\t㊠項\t㊡休\t㊢写\t㊣正\t㊤上\t㊥中\t㊦下\t㊧左\t㊨右\t㊩医\t㊪宗",
   "㊫学\t㊬監\t㊭企\t㊮資\t㊯協\t㊰夜\t㊱36\t㊲37\t㊳38\t㊴39\t㊵40\t㊶41\t㊷42\t㊸43\t㊹44\t㊺45\t㊻46\t㊼47\t㊽48\t㊾49",
   "㊿50\t㋀1月\t㋁2月\t㋂3月\t㋃4月\t㋄5月\t㋅6月\t㋆7月\t㋇8月\t㋈9月\t㋉10月\t㋊11月\t㋋12月\t㋐ア\t㋑イ\t㋒ウ\t㋓エ\t㋔オ\t㋕カ\t㋖キ",
   "㋗ク\t㋘ケ\t㋙コ\t㋚サ\t㋛シ\t㋜ス\t㋝セ\t㋞ソ\t㋟タ\t㋠チ\t㋡ツ\t㋢テ\t㋣ト\t㋤ナ\t㋥ニ\t㋦ヌ\t㋧ネ\t㋨ノ\t㋩ハ\t㋪ヒ\t㋫フ\t㋬ヘ\t㋭ホ\t㋮マ",
   "㋯ミ\t㋰ム\t㋱メ\t㋲モ\t㋳ヤ\t㋴ユ\t㋵ヨ\t㋶ラ\t㋷リ\t㋸ル\t㋹レ\t㋺ロ\t㋻ワ\t㋼ヰ\t㋽ヱ\t㋾ヲ\t㌀アハ\u309aート\t㌁アルファ",
   "㌂アンヘ\u309aア\t㌃アール\t㌄イニンク\u3099\t㌅インチ\t㌆ウォン\t㌇エスクート\u3099\t㌈エーカー\t㌉オンス\t㌊オーム\t㌋カイリ\t㌌カラット",
   "㌍カロリー\t㌎カ\u3099ロン\t㌏カ\u3099ンマ\t㌐キ\u3099カ\u3099\t㌑キ\u3099ニー\t㌒キュリー\t㌓キ\u3099ルタ\u3099ー\t㌔キロ",
   "㌕キロク\u3099ラム\t㌖キロメートル\t㌗キロワット\t㌘ク\u3099ラム\t㌙ク\u3099ラムトン\t㌚クルセ\u3099イロ\t㌛クローネ\t㌜ケース\t㌝コルナ",
   "㌞コーホ\u309a\t㌟サイクル\t㌠サンチーム\t㌡シリンク\u3099\t㌢センチ\t㌣セント\t㌤タ\u3099ース\t㌥テ\u3099シ\t㌦ト\u3099ル\t㌧トン\t㌨ナノ",
   "㌩ノット\t㌪ハイツ\t㌫ハ\u309aーセント\t㌬ハ\u309aーツ\t㌭ハ\u3099ーレル\t㌮ヒ\u309aアストル\t㌯ヒ\u309aクル\t㌰ヒ\u309aコ",
   "㌱ヒ\u3099ル\t㌲ファラット\u3099\t㌳フィート\t㌴フ\u3099ッシェル\t㌵フラン\t㌶ヘクタール\t㌷ヘ\u309aソ\t㌸ヘ\u309aニヒ\t㌹ヘルツ",
   "㌺ヘ\u309aンス\t㌻ヘ\u309aーシ\u3099\t㌼ヘ\u3099ータ\t㌽ホ\u309aイント\t㌾ホ\u3099ルト\t㌿ホン\t㍀ホ\u309aント\u3099\t㍁ホール",
   "㍂ホーン\t㍃マイクロ\t㍄マイル\t㍅マッハ\t㍆マルク\t㍇マンション\t㍈ミクロン\t㍉ミリ\t㍊ミリハ\u3099ール\t㍋メカ\u3099\t㍌メカ\u3099トン\t㍍メートル",
   "㍎ヤート\u3099\t㍏ヤール\t㍐ユアン\t㍑リットル\t㍒リラ\t㍓ルヒ\u309aー\t㍔ルーフ\u3099ル\t㍕レム\t㍖レントケ\u3099ン\t㍗ワット\t㍘0点\t㍙1点",
   "㍚2点\t㍛3点\t㍜4点\t㍝5点\t㍞6点\t㍟7点\t㍠8点\t㍡9点\t㍢10点\t㍣11点\t㍤12点\t㍥13点\t㍦14点\t㍧15点\t㍨16点\t㍩17点\t㍪18点",
   "㍫19点\t㍬20点\t㍭21点\t㍮22点\t㍯23点\t㍰24点\t㍱hPa\t㍲da\t㍳AU\t㍴bar\t㍵oV\t㍶pc\t㍻平成\t㍼昭和\t㍽大正\t㍾明治\t㍿株式会社",
   "㎀pA\t㎁nA\t㎂μA\t㎃mA\t㎄kA\t㎅KB\t㎆MB\t㎇GB\t㎈cal\t㎉kcal\t㎊pF\t㎋nF\t㎌μF\t㎍μg\t㎎mg\t㎏kg\t㎐Hz\t㎑kHz",
   "㎒MHz\t㎓GHz\t㎔THz\t㎕μl\t㎖ml\t㎗dl\t㎘kl\t㎙fm\t㎚nm\t㎛μm\t㎜mm\t㎝cm\t㎞km\t㎟mm2\t㎠cm2\t㎡m2\t㎢km2",
   "㎣mm3\t㎤cm3\t㎥m3\t㎦km3\t㎧m∕s\t㎨m∕s2\t㎩Pa\t㎪kPa\t㎫MPa\t㎬GPa\t㎭rad\t㎮rad∕s\t㎯rad∕s2\t㎰ps\t㎱ns",
   "㎲μs\t㎳ms\t㎴pV\t㎵nV\t㎶μV\t㎷mV\t㎸kV\t㎹MV\t㎺pW\t㎻nW\t㎼μW\t㎽mW\t㎾kW\t㎿MW\t㏀kΩ\t㏁MΩ\t㏂a.m.\t㏃Bq",
   "㏄cc\t㏅cd\t㏆C∕kg\t㏇Co.\t㏈dB\t㏉Gy\t㏊ha\t㏋HP\t㏌in\t㏍KK\t㏎KM\t㏏kt\t㏐lm\t㏑ln\t㏒log\t㏓lx\t㏔mb\t㏕mil",
   "㏖mol\t㏗PH\t㏘p.m.\t㏙PPM\t㏚PR\t㏛sr\t㏜Sv\t㏝Wb\t㏠1日\t㏡2日\t㏢3日\t㏣4日\t㏤5日\t㏥6日\t㏦7日\t㏧8日\t㏨9日\t㏩10日",
   "㏪11日\t㏫12日\t㏬13日\t㏭14日\t㏮15日\t㏯16日\t㏰17日\t㏱18日\t㏲19日\t㏳20日\t㏴21日\t㏵22日\t㏶23日\t㏷24日\t㏸25日\t㏹26日",
   "㏺27日\t㏻28日\t㏼29日\t㏽30日\t㏾31日\t豈豈\t更更\t車車\t賈賈\t滑滑\t串串\t句句\t龜龜\t龜龜\t契契\t金金\t喇喇\t奈奈\t懶懶\t癩癩\t羅羅",
   "蘿蘿\t螺螺\t裸裸\t邏邏\t樂樂\t洛洛\t烙烙\t珞珞\t落落\t酪酪\t駱駱\t亂亂\t卵卵\t欄欄\t爛爛\t蘭蘭\t鸞鸞\t嵐嵐\t濫濫\t藍藍\t襤襤\t拉拉\t臘臘\t蠟蠟",
   "廊廊\t朗朗\t浪浪\t狼狼\t郎郎\t來來\t冷冷\t勞勞\t擄擄\t櫓櫓\t爐爐\t盧盧\t老老\t蘆蘆\t虜虜\t路路\t露露\t魯魯\t鷺鷺\t碌碌\t祿祿\t綠綠\t菉菉\t錄錄",
   "鹿鹿\t論論\t壟壟\t弄弄\t籠籠\t聾聾\t牢牢\t磊磊\t賂賂\t雷雷\t壘壘\t屢屢\t樓樓\t淚淚\t漏漏\t累累\t縷縷\t陋陋\t勒勒\t肋肋\t凜凜\t凌凌\t稜稜\t綾綾",
   "菱菱\t陵陵\t讀讀\t拏拏\t樂樂\t諾諾\t丹丹\t寧寧\t怒怒\t率率\t異異\t北北\t磻磻\t便便\t復復\t不不\t泌泌\t數數\t索索\t參參\t塞塞\t省省\t葉葉\t說說",
   "殺殺\t辰辰\t沈沈\t拾拾\t若若\t掠掠\t略略\t亮亮\t兩兩\t凉凉\t梁梁\t糧糧\t良良\t諒諒\t量量\t勵勵\t呂呂\t女女\t廬廬\t旅旅\t濾濾\t礪礪\t閭閭\t驪驪",
   "麗麗\t黎黎\t力力\t曆曆\t歷歷\t轢轢\t年年\t憐憐\t戀戀\t撚撚\t漣漣\t煉煉\t璉璉\t秊秊\t練練\t聯聯\t輦輦\t蓮蓮\t連連\t鍊鍊\t列列\t劣劣\t咽咽\t烈烈",
   "裂裂\t說說\t廉廉\t念念\t捻捻\t殮殮\t簾簾\t獵獵\t令令\t囹囹\t寧寧\t嶺嶺\t怜怜\t玲玲\t瑩瑩\t羚羚\t聆聆\t鈴鈴\t零零\t靈靈\t領領\t例例\t禮禮\t醴醴",
   "隸隸\t惡惡\t了了\t僚僚\t寮寮\t尿尿\t料料\t樂樂\t燎燎\t療療\t蓼蓼\t遼遼\t龍龍\t暈暈\t阮阮\t劉劉\t杻杻\t柳柳\t流流\t溜溜\t琉琉\t留留\t硫硫\t紐紐",
   "類類\t六六\t戮戮\t陸陸\t倫倫\t崙崙\t淪淪\t輪輪\t律律\t慄慄\t栗栗\t率率\t隆隆\t利利\t吏吏\t履履\t易易\t李李\t梨梨\t泥泥\t理理\t痢痢\t罹罹\t裏裏",
   "裡裡\t里里\t離離\t匿匿\t溺溺\t吝吝\t燐燐\t璘璘\t藺藺\t隣隣\t鱗鱗\t麟麟\t林林\t淋淋\t臨臨\t立立\t笠笠\t粒粒\t狀狀\t炙炙\t識識\t什什\t茶茶\t刺刺",
   "切切\t度度\t拓拓\t糖糖\t宅宅\t洞洞\t暴暴\t輻輻\t行行\t降降\t見見\t廓廓\t兀兀\t嗀嗀\t塚塚\t晴晴\t凞凞\t猪猪\t益益\t礼礼\t神神\t祥祥\t福福\t靖靖",
   "精精\t羽羽\t蘒蘒\t諸諸\t逸逸\t都都\t飯飯\t飼飼\t館館\t鶴鶴\t侮侮\t僧僧\t免免\t勉勉\t勤勤\t卑卑\t喝喝\t嘆嘆\t器器\t塀塀\t墨墨\t層層\t屮屮\t悔悔",
   "慨慨\t憎憎\t懲懲\t敏敏\t既既\t暑暑\t梅梅\t海海\t渚渚\t漢漢\t煮煮\t爫爫\t琢琢\t碑碑\t社社\t祉祉\t祈祈\t祐祐\t祖祖\t祝祝\t禍禍\t禎禎\t穀穀\t突突",
   "節節\t練練\t縉縉\t繁繁\t署署\t者者\t臭臭\t艹艹\t艹艹\t著著\t褐褐\t視視\t謁謁\t謹謹\t賓賓\t贈贈\t辶辶\t逸逸\t難難\t響響\t頻頻\tﬀff\tﬁfi",
   "ﬂfl\tﬃffi\tﬄffl\tﬅst\tﬆst\tﬓմն\tﬔմե\tﬕմի\tﬖվն\tﬗմխ\t\ufb1d\u05d9\u05b4\t\ufb1f\u05f2\u05b7",
   "\ufb20\u05e2\t\ufb21\u05d0\t\ufb22\u05d3\t\ufb23\u05d4\t\ufb24\u05db\t\ufb25\u05dc",
   "\ufb26\u05dd\t\ufb27\u05e8\t\ufb28\u05ea\t﬩+\t\ufb2a\u05e9\u05c1\t\ufb2b\u05e9\u05c2",
   "\ufb2c\u05e9\u05bc\u05c1\t\ufb2d\u05e9\u05bc\u05c2\t\ufb2e\u05d0\u05b7\t\ufb2f\u05d0\u05b8",
   "\ufb30\u05d0\u05bc\t\ufb31\u05d1\u05bc\t\ufb32\u05d2\u05bc\t\ufb33\u05d3\u05bc",
   "\ufb34\u05d4\u05bc\t\ufb35\u05d5\u05bc\t\ufb36\u05d6\u05bc\t\ufb38\u05d8\u05bc",
   "\ufb39\u05d9\u05bc\t\ufb3a\u05da\u05bc\t\ufb3b\u05db\u05bc\t\ufb3c\u05dc\u05bc",
   "\ufb3e\u05de\u05bc\t\ufb40\u05e0\u05bc\t\ufb41\u05e1\u05bc\t\ufb43\u05e3\u05bc",
   "\ufb44\u05e4\u05bc\t\ufb46\u05e6\u05bc\t\ufb47\u05e7\u05bc\t\ufb48\u05e8\u05bc",
   "\ufb49\u05e9\u05bc\t\ufb4a\u05ea\u05bc\t\ufb4b\u05d5\u05b9\t\ufb4c\u05d1\u05bf",
   "\ufb4d\u05db\u05bf\t\ufb4e\u05e4\u05bf\t\ufb4f\u05d0\u05dc\t\ufb50\u0671\t\ufb51\u0671",
   "\ufb52\u067b\t\ufb53\u067b\t\ufb54\u067b\t\ufb55\u067b\t\ufb56\u067e\t\ufb57\u067e",
   "\ufb58\u067e\t\ufb59\u067e\t\ufb5a\u0680\t\ufb5b\u0680\t\ufb5c\u0680\t\ufb5d\u0680",
   "\ufb5e\u067a\t\ufb5f\u067a\t\ufb60\u067a\t\ufb61\u067a\t\ufb62\u067f\t\ufb63\u067f",
   "\ufb64\u067f\t\ufb65\u067f\t\ufb66\u0679\t\ufb67\u0679\t\ufb68\u0679\t\ufb69\u0679",
   "\ufb6a\u06a4\t\ufb6b\u06a4\t\ufb6c\u06a4\t\ufb6d\u06a4\t\ufb6e\u06a6\t\ufb6f\u06a6",
   "\ufb70\u06a6\t\ufb71\u06a6\t\ufb72\u0684\t\ufb73\u0684\t\ufb74\u0684\t\ufb75\u0684",
   "\ufb76\u0683\t\ufb77\u0683\t\ufb78\u0683\t\ufb79\u0683\t\ufb7a\u0686\t\ufb7b\u0686",
   "\ufb7c\u0686\t\ufb7d\u0686\t\ufb7e\u0687\t\ufb7f\u0687\t\ufb80\u0687\t\ufb81\u0687",
   "\ufb82\u068d\t\ufb83\u068d\t\ufb84\u068c\t\ufb85\u068c\t\ufb86\u068e\t\ufb87\u068e",
   "\ufb88\u0688\t\ufb89\u0688\t\ufb8a\u0698\t\ufb8b\u0698\t\ufb8c\u0691\t\ufb8d\u0691",
   "\ufb8e\u06a9\t\ufb8f\u06a9\t\ufb90\u06a9\t\ufb91\u06a9\t\ufb92\u06af\t\ufb93\u06af",
   "\ufb94\u06af\t\ufb95\u06af\t\ufb96\u06b3\t\ufb97\u06b3\t\ufb98\u06b3\t\ufb99\u06b3",
   "\ufb9a\u06b1\t\ufb9b\u06b1\t\ufb9c\u06b1\t\ufb9d\u06b1\t\ufb9e\u06ba\t\ufb9f\u06ba",
   "\ufba0\u06bb\t\ufba1\u06bb\t\ufba2\u06bb\t\ufba3\u06bb\t\ufba4\u06d5\u0654\t\ufba5\u06d5\u0654",
   "\ufba6\u06c1\t\ufba7\u06c1\t\ufba8\u06c1\t\ufba9\u06c1\t\ufbaa\u06be\t\ufbab\u06be",
   "\ufbac\u06be\t\ufbad\u06be\t\ufbae\u06d2\t\ufbaf\u06d2\t\ufbb0\u06d2\u0654\t\ufbb1\u06d2\u0654",
   "\ufbd3\u06ad\t\ufbd4\u06ad\t\ufbd5\u06ad\t\ufbd6\u06ad\t\ufbd7\u06c7\t\ufbd8\u06c7",
   "\ufbd9\u06c6\t\ufbda\u06c6\t\ufbdb\u06c8\t\ufbdc\u06c8\t\ufbdd\u06c7\u0674\t\ufbde\u06cb",
   "\ufbdf\u06cb\t\ufbe0\u06c5\t\ufbe1\u06c5\t\ufbe2\u06c9\t\ufbe3\u06c9\t\ufbe4\u06d0",
   "\ufbe5\u06d0\t\ufbe6\u06d0\t\ufbe7\u06d0\t\ufbe8\u0649\t\ufbe9\u0649\t\ufbea\u064a\u0654\u0627",
   "\ufbeb\u064a\u0654\u0627\t\ufbec\u064a\u0654\u06d5\t\ufbed\u064a\u0654\u06d5",
   "\ufbee\u064a\u0654\u0648\t\ufbef\u064a\u0654\u0648\t\ufbf0\u064a\u0654\u06c7",
   "\ufbf1\u064a\u0654\u06c7\t\ufbf2\u064a\u0654\u06c6\t\ufbf3\u064a\u0654\u06c6",
   "\ufbf4\u064a\u0654\u06c8\t\ufbf5\u064a\u0654\u06c8\t\ufbf6\u064a\u0654\u06d0",
   "\ufbf7\u064a\u0654\u06d0\t\ufbf8\u064a\u0654\u06d0\t\ufbf9\u064a\u0654\u0649",
   "\ufbfa\u064a\u0654\u0649\t\ufbfb\u064a\u0654\u0649\t\ufbfc\u06cc\t\ufbfd\u06cc\t\ufbfe\u06cc",
   "\ufbff\u06cc\t\ufc00\u064a\u0654\u062c\t\ufc01\u064a\u0654\u062d\t\ufc02\u064a\u0654\u0645",
   "\ufc03\u064a\u0654\u0649\t\ufc04\u064a\u0654\u064a\t\ufc05\u0628\u062c\t\ufc06\u0628\u062d",
   "\ufc07\u0628\u062e\t\ufc08\u0628\u0645\t\ufc09\u0628\u0649\t\ufc0a\u0628\u064a",
   "\ufc0b\u062a\u062c\t\ufc0c\u062a\u062d\t\ufc0d\u062a\u062e\t\ufc0e\u062a\u0645",
   "\ufc0f\u062a\u0649\t\ufc10\u062a\u064a\t\ufc11\u062b\u062c\t\ufc12\u062b\u0645",
   "\ufc13\u062b\u0649\t\ufc14\u062b\u064a\t\ufc15\u062c\u062d\t\ufc16\u062c\u0645",
   "\ufc17\u062d\u062c\t\ufc18\u062d\u0645\t\ufc19\u062e\u062c\t\ufc1a\u062e\u062d",
   "\ufc1b\u062e\u0645\t\ufc1c\u0633\u062c\t\ufc1d\u0633\u062d\t\ufc1e\u0633\u062e",
   "\ufc1f\u0633\u0645\t\ufc20\u0635\u062d\t\ufc21\u0635\u0645\t\ufc22\u0636\u062c",
   "\ufc23\u0636\u062d\t\ufc24\u0636\u062e\t\ufc25\u0636\u0645\t\ufc26\u0637\u062d",
   "\ufc27\u0637\u0645\t\ufc28\u0638\u0645\t\ufc29\u0639\u062c\t\ufc2a\u0639\u0645",
   "\ufc2b\u063a\u062c\t\ufc2c\u063a\u0645\t\ufc2d\u0641\u062c\t\ufc2e\u0641\u062d",
   "\ufc2f\u0641\u062e\t\ufc30\u0641\u0645\t\ufc31\u0641\u0649\t\ufc32\u0641\u064a",
   "\ufc33\u0642\u062d\t\ufc34\u0642\u0645\t\ufc35\u0642\u0649\t\ufc36\u0642\u064a",
   "\ufc37\u0643\u0627\t\ufc38\u0643\u062c\t\ufc39\u0643\u062d\t\ufc3a\u0643\u062e",
   "\ufc3b\u0643\u0644\t\ufc3c\u0643\u0645\t\ufc3d\u0643\u0649\t\ufc3e\u0643\u064a",
   "\ufc3f\u0644\u062c\t\ufc40\u0644\u062d\t\ufc41\u0644\u062e\t\ufc42\u0644\u0645",
   "\ufc43\u0644\u0649\t\ufc44\u0644\u064a\t\ufc45\u0645\u062c\t\ufc46\u0645\u062d",
   "\ufc47\u0645\u062e\t\ufc48\u0645\u0645\t\ufc49\u0645\u0649\t\ufc4a\u0645\u064a",
   "\ufc4b\u0646\u062c\t\ufc4c\u0646\u062d\t\ufc4d\u0646\u062e\t\ufc4e\u0646\u0645",
   "\ufc4f\u0646\u0649\t\ufc50\u0646\u064a\t\ufc51\u0647\u062c\t\ufc52\u0647\u0645",
   "\ufc53\u0647\u0649\t\ufc54\u0647\u064a\t\ufc55\u064a\u062c\t\ufc56\u064a\u062d",
   "\ufc57\u064a\u062e\t\ufc58\u064a\u0645\t\ufc59\u064a\u0649\t\ufc5a\u064a\u064a",
   "\ufc5b\u0630\u0670\t\ufc5c\u0631\u0670\t\ufc5d\u0649\u0670\t\ufc5e \u064c\u0651",
   "\ufc5f \u064d\u0651\t\ufc60 \u064e\u0651\t\ufc61 \u064f\u0651\t\ufc62 \u0650\u0651",
   "\ufc63 \u0651\u0670\t\ufc64\u064a\u0654\u0631\t\ufc65\u064a\u0654\u0632",
   "\ufc66\u064a\u0654\u0645\t\ufc67\u064a\u0654\u0646\t\ufc68\u064a\u0654\u0649",
   "\ufc69\u064a\u0654\u064a\t\ufc6a\u0628\u0631\t\ufc6b\u0628\u0632\t\ufc6c\u0628\u0645",
   "\ufc6d\u0628\u0646\t\ufc6e\u0628\u0649\t\ufc6f\u0628\u064a\t\ufc70\u062a\u0631",
   "\ufc71\u062a\u0632\t\ufc72\u062a\u0645\t\ufc73\u062a\u0646\t\ufc74\u062a\u0649",
   "\ufc75\u062a\u064a\t\ufc76\u062b\u0631\t\ufc77\u062b\u0632\t\ufc78\u062b\u0645",
   "\ufc79\u062b\u0646\t\ufc7a\u062b\u0649\t\ufc7b\u062b\u064a\t\ufc7c\u0641\u0649",
   "\ufc7d\u0641\u064a\t\ufc7e\u0642\u0649\t\ufc7f\u0642\u064a\t\ufc80\u0643\u0627",
   "\ufc81\u0643\u0644\t\ufc82\u0643\u0645\t\ufc83\u0643\u0649\t\ufc84\u0643\u064a",
   "\ufc85\u0644\u0645\t\ufc86\u0644\u0649\t\ufc87\u0644\u064a\t\ufc88\u0645\u0627",
   "\ufc89\u0645\u0645\t\ufc8a\u0646\u0631\t\ufc8b\u0646\u0632\t\ufc8c\u0646\u0645",
   "\ufc8d\u0646\u0646\t\ufc8e\u0646\u0649\t\ufc8f\u0646\u064a\t\ufc90\u0649\u0670",
   "\ufc91\u064a\u0631\t\ufc92\u064a\u0632\t\ufc93\u064a\u0645\t\ufc94\u064a\u0646",
   "\ufc95\u064a\u0649\t\ufc96\u064a\u064a\t\ufc97\u064a\u0654\u062c\t\ufc98\u064a\u0654\u062d",
   "\ufc99\u064a\u0654\u062e\t\ufc9a\u064a\u0654\u0645\t\ufc9b\u064a\u0654\u0647",
   "\ufc9c\u0628\u062c\t\ufc9d\u0628\u062d\t\ufc9e\u0628\u062e\t\ufc9f\u0628\u0645",
   "\ufca0\u0628\u0647\t\ufca1\u062a\u062c\t\ufca2\u062a\u062d\t\ufca3\u062a\u062e",
   "\ufca4\u062a\u0645\t\ufca5\u062a\u0647\t\ufca6\u062b\u0645\t\ufca7\u062c\u062d",
   "\ufca8\u062c\u0645\t\ufca9\u062d\u062c\t\ufcaa\u062d\u0645\t\ufcab\u062e\u062c",
   "\ufcac\u062e\u0645\t\ufcad\u0633\u062c\t\ufcae\u0633\u062d\t\ufcaf\u0633\u062e",
   "\ufcb0\u0633\u0645\t\ufcb1\u0635\u062d\t\ufcb2\u0635\u062e\t\ufcb3\u0635\u0645",
   "\ufcb4\u0636\u062c\t\ufcb5\u0636\u062d\t\ufcb6\u0636\u062e\t\ufcb7\u0636\u0645",
   "\ufcb8\u0637\u062d\t\ufcb9\u0638\u0645\t\ufcba\u0639\u062c\t\ufcbb\u0639\u0645",
   "\ufcbc\u063a\u062c\t\ufcbd\u063a\u0645\t\ufcbe\u0641\u062c\t\ufcbf\u0641\u062d",
   "\ufcc0\u0641\u062e\t\ufcc1\u0641\u0645\t\ufcc2\u0642\u062d\t\ufcc3\u0642\u0645",
   "\ufcc4\u0643\u062c\t\ufcc5\u0643\u062d\t\ufcc6\u0643\u062e\t\ufcc7\u0643\u0644",
   "\ufcc8\u0643\u0645\t\ufcc9\u0644\u062c\t\ufcca\u0644\u062d\t\ufccb\u0644\u062e",
   "\ufccc\u0644\u0645\t\ufccd\u0644\u0647\t\ufcce\u0645\u062c\t\ufccf\u0645\u062d",
   "\ufcd0\u0645\u062e\t\ufcd1\u0645\u0645\t\ufcd2\u0646\u062c\t\ufcd3\u0646\u062d",
   "\ufcd4\u0646\u062e\t\ufcd5\u0646\u0645\t\ufcd6\u0646\u0647\t\ufcd7\u0647\u062c",
   "\ufcd8\u0647\u0645\t\ufcd9\u0647\u0670\t\ufcda\u064a\u062c\t\ufcdb\u064a\u062d",
   "\ufcdc\u064a\u062e\t\ufcdd\u064a\u0645\t\ufcde\u064a\u0647\t\ufcdf\u064a\u0654\u0645",
   "\ufce0\u064a\u0654\u0647\t\ufce1\u0628\u0645\t\ufce2\u0628\u0647\t\ufce3\u062a\u0645",
   "\ufce4\u062a\u0647\t\ufce5\u062b\u0645\t\ufce6\u062b\u0647\t\ufce7\u0633\u0645",
   "\ufce8\u0633\u0647\t\ufce9\u0634\u0645\t\ufcea\u0634\u0647\t\ufceb\u0643\u0644",
   "\ufcec\u0643\u0645\t\ufced\u0644\u0645\t\ufcee\u0646\u0645\t\ufcef\u0646\u0647",
   "\ufcf0\u064a\u0645\t\ufcf1\u064a\u0647\t\ufcf2\u0640\u064e\u0651\t\ufcf3\u0640\u064f\u0651",
   "\ufcf4\u0640\u0650\u0651\t\ufcf5\u0637\u0649\t\ufcf6\u0637\u064a\t\ufcf7\u0639\u0649",
   "\ufcf8\u0639\u064a\t\ufcf9\u063a\u0649\t\ufcfa\u063a\u064a\t\ufcfb\u0633\u0649",
   "\ufcfc\u0633\u064a\t\ufcfd\u0634\u0649\t\ufcfe\u0634\u064a\t\ufcff\u062d\u0649",
   "\ufd00\u062d\u064a\t\ufd01\u062c\u0649\t\ufd02\u062c\u064a\t\ufd03\u062e\u0649",
   "\ufd04\u062e\u064a\t\ufd05\u0635\u0649\t\ufd06\u0635\u064a\t\ufd07\u0636\u0649",
   "\ufd08\u0636\u064a\t\ufd09\u0634\u062c\t\ufd0a\u0634\u062d\t\ufd0b\u0634\u062e",
   "\ufd0c\u0634\u0645\t\ufd0d\u0634\u0631\t\ufd0e\u0633\u0631\t\ufd0f\u0635\u0631",
   "\ufd10\u0636\u0631\t\ufd11\u0637\u0649\t\ufd12\u0637\u064a\t\ufd13\u0639\u0649",
   "\ufd14\u0639\u064a\t\ufd15\u063a\u0649\t\ufd16\u063a\u064a\t\ufd17\u0633\u0649",
   "\ufd18\u0633\u064a\t\ufd19\u0634\u0649\t\ufd1a\u0634\u064a\t\ufd1b\u062d\u0649",
   "\ufd1c\u062d\u064a\t\ufd1d\u062c\u0649\t\ufd1e\u062c\u064a\t\ufd1f\u062e\u0649",
   "\ufd20\u062e\u064a\t\ufd21\u0635\u0649\t\ufd22\u0635\u064a\t\ufd23\u0636\u0649",
   "\ufd24\u0636\u064a\t\ufd25\u0634\u062c\t\ufd26\u0634\u062d\t\ufd27\u0634\u062e",
   "\ufd28\u0634\u0645\t\ufd29\u0634\u0631\t\ufd2a\u0633\u0631\t\ufd2b\u0635\u0631",
   "\ufd2c\u0636\u0631\t\ufd2d\u0634\u062c\t\ufd2e\u0634\u062d\t\ufd2f\u0634\u062e",
   "\ufd30\u0634\u0645\t\ufd31\u0633\u0647\t\ufd32\u0634\u0647\t\ufd33\u0637\u0645",
   "\ufd34\u0633\u062c\t\ufd35\u0633\u062d\t\ufd36\u0633\u062e\t\ufd37\u0634\u062c",
   "\ufd38\u0634\u062d\t\ufd39\u0634\u062e\t\ufd3a\u0637\u0645\t\ufd3b\u0638\u0645",
   "\ufd3c\u0627\u064b\t\ufd3d\u0627\u064b\t\ufd50\u062a\u062c\u0645\t\ufd51\u062a\u062d\u062c",
   "\ufd52\u062a\u062d\u062c\t\ufd53\u062a\u062d\u0645\t\ufd54\u062a\u062e\u0645",
   "\ufd55\u062a\u0645\u062c\t\ufd56\u062a\u0645\u062d\t\ufd57\u062a\u0645\u062e",
   "\ufd58\u062c\u0645\u062d\t\ufd59\u062c\u0645\u062d\t\ufd5a\u062d\u0645\u064a",
   "\ufd5b\u062d\u0645\u0649\t\ufd5c\u0633\u062d\u062c\t\ufd5d\u0633\u062c\u062d",
   "\ufd5e\u0633\u062c\u0649\t\ufd5f\u0633\u0645\u062d\t\ufd60\u0633\u0645\u062d",
   "\ufd61\u0633\u0645\u062c\t\ufd62\u0633\u0645\u0645\t\ufd63\u0633\u0645\u0645",
   "\ufd64\u0635\u062d\u062d\t\ufd65\u0635\u062d\u062d\t\ufd66\u0635\u0645\u0645",
   "\ufd67\u0634\u062d\u0645\t\ufd68\u0634\u062d\u0645\t\ufd69\u0634\u062c\u064a",
   "\ufd6a\u0634\u0645\u062e\t\ufd6b\u0634\u0645\u062e\t\ufd6c\u0634\u0645\u0645",
   "\ufd6d\u0634\u0645\u0645\t\ufd6e\u0636\u062d\u0649\t\ufd6f\u0636\u062e\u0645",
   "\ufd70\u0636\u062e\u0645\t\ufd71\u0637\u0645\u062d\t\ufd72\u0637\u0645\u062d",
   "\ufd73\u0637\u0645\u0645\t\ufd74\u0637\u0645\u064a\t\ufd75\u0639\u062c\u0645",
   "\ufd76\u0639\u0645\u0645\t\ufd77\u0639\u0645\u0645\t\ufd78\u0639\u0645\u0649",
   "\ufd79\u063a\u0645\u0645\t\ufd7a\u063a\u0645\u064a\t\ufd7b\u063a\u0645\u0649",
   "\ufd7c\u0641\u062e\u0645\t\ufd7d\u0641\u062e\u0645\t\ufd7e\u0642\u0645\u062d",
   "\ufd7f\u0642\u0645\u0645\t\ufd80\u0644\u062d\u0645\t\ufd81\u0644\u062d\u064a",
   "\ufd82\u0644\u062d\u0649\t\ufd83\u0644\u062c\u062c\t\ufd84\u0644\u062c\u062c",
   "\ufd85\u0644\u062e\u0645\t\ufd86\u0644\u062e\u0645\t\ufd87\u0644\u0645\u062d",
   "\ufd88\u0644\u0645\u062d\t\ufd89\u0645\u062d\u062c\t\ufd8a\u0645\u062d\u0645",
   "\ufd8b\u0645\u062d\u064a\t\ufd8c\u0645\u062c\u062d\t\ufd8d\u0645\u062c\u0645",
   "\ufd8e\u0645\u062e\u062c\t\ufd8f\u0645\u062e\u0645\t\ufd92\u0645\u062c\u062e",
   "\ufd93\u0647\u0645\u062c\t\ufd94\u0647\u0645\u0645\t\ufd95\u0646\u062d\u0645",
   "\ufd96\u0646\u062d\u0649\t\ufd97\u0646\u062c\u0645\t\ufd98\u0646\u062c\u0645",
   "\ufd99\u0646\u062c\u0649\t\ufd9a\u0646\u0645\u064a\t\ufd9b\u0646\u0645\u0649",
   "\ufd9c\u064a\u0645\u0645\t\ufd9d\u064a\u0645\u0645\t\ufd9e\u0628\u062e\u064a",
   "\ufd9f\u062a\u062c\u064a\t\ufda0\u062a\u062c\u0649\t\ufda1\u062a\u062e\u064a",
   "\ufda2\u062a\u062e\u0649\t\ufda3\u062a\u0645\u064a\t\ufda4\u062a\u0645\u0649",
   "\ufda5\u062c\u0645\u064a\t\ufda6\u062c\u062d\u0649\t\ufda7\u062c\u0645\u0649",
   "\ufda8\u0633\u062e\u0649\t\ufda9\u0635\u062d\u064a\t\ufdaa\u0634\u062d\u064a",
   "\ufdab\u0636\u062d\u064a\t\ufdac\u0644\u062c\u064a\t\ufdad\u0644\u0645\u064a",
   "\ufdae\u064a\u062d\u064a\t\ufdaf\u064a\u062c\u064a\t\ufdb0\u064a\u0645\u064a",
   "\ufdb1\u0645\u0645\u064a\t\ufdb2\u0642\u0645\u064a\t\ufdb3\u0646\u062d\u064a",
   "\ufdb4\u0642\u0645\u062d\t\ufdb5\u0644\u062d\u0645\t\ufdb6\u0639\u0645\u064a",
   "\ufdb7\u0643\u0645\u064a\t\ufdb8\u0646\u062c\u062d\t\ufdb9\u0645\u062e\u064a",
   "\ufdba\u0644\u062c\u0645\t\ufdbb\u0643\u0645\u0645\t\ufdbc\u0644\u062c\u0645",
   "\ufdbd\u0646\u062c\u062d\t\ufdbe\u062c\u062d\u064a\t\ufdbf\u062d\u062c\u064a",
   "\ufdc0\u0645\u062c\u064a\t\ufdc1\u0641\u0645\u064a\t\ufdc2\u0628\u062d\u064a",
   "\ufdc3\u0643\u0645\u0645\t\ufdc4\u0639\u062c\u0645\t\ufdc5\u0635\u0645\u0645",
   "\ufdc6\u0633\u062e\u064a\t\ufdc7\u0646\u062c\u064a\t\ufdf0\u0635\u0644\u06d2",
   "\ufdf1\u0642\u0644\u06d2\t\ufdf2\u0627\u0644\u0644\u0647\t\ufdf3\u0627\u0643\u0628\u0631",
   "\ufdf4\u0645\u062d\u0645\u062f\t\ufdf5\u0635\u0644\u0639\u0645\t\ufdf6\u0631\u0633\u0648\u0644",
   "\ufdf7\u0639\u0644\u064a\u0647\t\ufdf8\u0648\u0633\u0644\u0645\t\ufdf9\u0635\u0644\u0649",
   "\ufdfa\u0635\u0644\u0649 \u0627\u0644\u0644\u0647 \u0639\u0644\u064a\u0647 \u0648\u0633\u0644\u0645",
   "\ufdfb\u062c\u0644 \u062c\u0644\u0627\u0644\u0647\t\ufdfc\u0631\u06cc\u0627\u0644\t︰..\t︱—\t︲–",
   "︳_\t︴_\t︵(\t︶)\t︷\x7b\t︸\x7d\t︹〔\t︺〕\t︻【\t︼】\t︽《\t︾》\t︿〈\t﹀〉\t﹁「\t﹂」\t﹃『\t﹄』\t﹉ \u0305",
   "﹊ \u0305\t﹋ \u0305\t﹌ \u0305\t﹍_\t﹎_\t﹏_\t﹐,\t﹑、\t﹒.\t﹔;\t﹕:\t﹖?\t﹗!\t﹘—\t﹙(\t﹚)\t﹛\x7b\t﹜\x7d",
   "﹝〔\t﹞〕\t﹟#\t﹠&\t﹡*\t﹢+\t﹣-\t﹤<\t﹥>\t﹦=\t﹨\x5c\t﹩$\t﹪%\t﹫@\t\ufe70 \u064b\t\ufe71\u0640\u064b",
   "\ufe72 \u064c\t\ufe74 \u064d\t\ufe76 \u064e\t\ufe77\u0640\u064e\t\ufe78 \u064f",
   "\ufe79\u0640\u064f\t\ufe7a \u0650\t\ufe7b\u0640\u0650\t\ufe7c \u0651\t\ufe7d\u0640\u0651",
   "\ufe7e \u0652\t\ufe7f\u0640\u0652\t\ufe80\u0621\t\ufe81\u0627\u0653\t\ufe82\u0627\u0653",
   "\ufe83\u0627\u0654\t\ufe84\u0627\u0654\t\ufe85\u0648\u0654\t\ufe86\u0648\u0654",
   "\ufe87\u0627\u0655\t\ufe88\u0627\u0655\t\ufe89\u064a\u0654\t\ufe8a\u064a\u0654",
   "\ufe8b\u064a\u0654\t\ufe8c\u064a\u0654\t\ufe8d\u0627\t\ufe8e\u0627\t\ufe8f\u0628\t\ufe90\u0628",
   "\ufe91\u0628\t\ufe92\u0628\t\ufe93\u0629\t\ufe94\u0629\t\ufe95\u062a\t\ufe96\u062a",
   "\ufe97\u062a\t\ufe98\u062a\t\ufe99\u062b\t\ufe9a\u062b\t\ufe9b\u062b\t\ufe9c\u062b",
   "\ufe9d\u062c\t\ufe9e\u062c\t\ufe9f\u062c\t\ufea0\u062c\t\ufea1\u062d\t\ufea2\u062d",
   "\ufea3\u062d\t\ufea4\u062d\t\ufea5\u062e\t\ufea6\u062e\t\ufea7\u062e\t\ufea8\u062e",
   "\ufea9\u062f\t\ufeaa\u062f\t\ufeab\u0630\t\ufeac\u0630\t\ufead\u0631\t\ufeae\u0631",
   "\ufeaf\u0632\t\ufeb0\u0632\t\ufeb1\u0633\t\ufeb2\u0633\t\ufeb3\u0633\t\ufeb4\u0633",
   "\ufeb5\u0634\t\ufeb6\u0634\t\ufeb7\u0634\t\ufeb8\u0634\t\ufeb9\u0635\t\ufeba\u0635",
   "\ufebb\u0635\t\ufebc\u0635\t\ufebd\u0636\t\ufebe\u0636\t\ufebf\u0636\t\ufec0\u0636",
   "\ufec1\u0637\t\ufec2\u0637\t\ufec3\u0637\t\ufec4\u0637\t\ufec5\u0638\t\ufec6\u0638",
   "\ufec7\u0638\t\ufec8\u0638\t\ufec9\u0639\t\ufeca\u0639\t\ufecb\u0639\t\ufecc\u0639",
   "\ufecd\u063a\t\ufece\u063a\t\ufecf\u063a\t\ufed0\u063a\t\ufed1\u0641\t\ufed2\u0641",
   "\ufed3\u0641\t\ufed4\u0641\t\ufed5\u0642\t\ufed6\u0642\t\ufed7\u0642\t\ufed8\u0642",
   "\ufed9\u0643\t\ufeda\u0643\t\ufedb\u0643\t\ufedc\u0643\t\ufedd\u0644\t\ufede\u0644",
   "\ufedf\u0644\t\ufee0\u0644\t\ufee1\u0645\t\ufee2\u0645\t\ufee3\u0645\t\ufee4\u0645",
   "\ufee5\u0646\t\ufee6\u0646\t\ufee7\u0646\t\ufee8\u0646\t\ufee9\u0647\t\ufeea\u0647",
   "\ufeeb\u0647\t\ufeec\u0647\t\ufeed\u0648\t\ufeee\u0648\t\ufeef\u0649\t\ufef0\u0649",
   "\ufef1\u064a\t\ufef2\u064a\t\ufef3\u064a\t\ufef4\u064a\t\ufef5\u0644\u0627\u0653",
   "\ufef6\u0644\u0627\u0653\t\ufef7\u0644\u0627\u0654\t\ufef8\u0644\u0627\u0654",
   "\ufef9\u0644\u0627\u0655\t\ufefa\u0644\u0627\u0655\t\ufefb\u0644\u0627\t\ufefc\u0644\u0627\t！!",
   "＂\x22\t＃#\t＄$\t％%\t＆&\t＇'\t（(\t）)\t＊*\t＋+\t，,\t－-\t．.\t／/\t０0\t１1\t２2\t３3\t４4\t５5\t６6\t７7\t８8",
   "９9\t：:\t；;\t＜<\t＝=\t＞>\t？?\t＠@\tＡA\tＢB\tＣC\tＤD\tＥE\tＦF\tＧG\tＨH\tＩI\tＪJ\tＫK\tＬL\tＭM\tＮN\tＯO\tＰP",
   "ＱQ\tＲR\tＳS\tＴT\tＵU\tＶV\tＷW\tＸX\tＹY\tＺZ\t［[\t＼\x5c\t］]\t＾^\t＿_\t｀`\tａa\tｂb\tｃc\tｄd\tｅe\tｆf\tｇg",
   "ｈh\tｉi\tｊj\tｋk\tｌl\tｍm\tｎn\tｏo\tｐp\tｑq\tｒr\tｓs\tｔt\tｕu\tｖv\tｗw\tｘx\tｙy\tｚz\t｛\x7b\t｜|\t｝\x7d",
   "～~\t｟⦅\t｠⦆\t｡。\t｢「\t｣」\t､、\t･・\tｦヲ\tｧァ\tｨィ\tｩゥ\tｪェ\tｫォ\tｬャ\tｭュ\tｮョ\tｯッ\tｰー\tｱア\tｲイ\tｳウ\tｴエ\tｵオ",
   "ｶカ\tｷキ\tｸク\tｹケ\tｺコ\tｻサ\tｼシ\tｽス\tｾセ\tｿソ\tﾀタ\tﾁチ\tﾂツ\tﾃテ\tﾄト\tﾅナ\tﾆニ\tﾇヌ\tﾈネ\tﾉノ\tﾊハ\tﾋヒ\tﾌフ\tﾍヘ",
   "ﾎホ\tﾏマ\tﾐミ\tﾑム\tﾒメ\tﾓモ\tﾔヤ\tﾕユ\tﾖヨ\tﾗラ\tﾘリ\tﾙル\tﾚレ\tﾛロ\tﾜワ\tﾝン\tﾞ\u3099\tﾟ\u309a\tﾠᅠ\tﾡᄀ\tﾢᄁ",
   "ﾣᆪ\tﾤᄂ\tﾥᆬ\tﾦᆭ\tﾧᄃ\tﾨᄄ\tﾩᄅ\tﾪᆰ\tﾫᆱ\tﾬᆲ\tﾭᆳ\tﾮᆴ\tﾯᆵ\tﾰᄚ\tﾱᄆ\tﾲᄇ\tﾳᄈ\tﾴᄡ\tﾵᄉ\tﾶᄊ\tﾷᄋ\tﾸᄌ\tﾹᄍ\tﾺᄎ",
   "ﾻᄏ\tﾼᄐ\tﾽᄑ\tﾾᄒ\tￂᅡ\tￃᅢ\tￄᅣ\tￅᅤ\tￆᅥ\tￇᅦ\tￊᅧ\tￋᅨ\tￌᅩ\tￍᅪ\tￎᅫ\tￏᅬ\tￒᅭ\tￓᅮ\tￔᅯ\tￕᅰ\tￖᅱ\tￗᅲ\tￚᅳ\tￛᅴ",
   "ￜᅵ\t￠¢\t￡£\t￢¬\t￣ \u0304\t￤¦\t￥¥\t￦₩\t￨│\t￩←\t￪↑\t￫→\t￬↓\t￭■\t￮○\t𝅗𝅥𝅗𝅥\t𝅘𝅥𝅘𝅥\t𝅘𝅥𝅮𝅘𝅥𝅮\t𝅘𝅥𝅯𝅘𝅥𝅯\t𝅘𝅥𝅰𝅘𝅥𝅰",
   "𝅘𝅥𝅱𝅘𝅥𝅱\t𝅘𝅥𝅲𝅘𝅥𝅲\t𝆹𝅥𝆹𝅥\t𝆺𝅥𝆺𝅥\t𝆹𝅥𝅮𝆹𝅥𝅮\t𝆺𝅥𝅮𝆺𝅥𝅮\t𝆹𝅥𝅯𝆹𝅥𝅯\t𝆺𝅥𝅯𝆺𝅥𝅯\t𝐀A\t𝐁B\t𝐂C\t𝐃D\t𝐄E\t𝐅F\t𝐆G\t𝐇H\t𝐈I\t𝐉J\t𝐊K\t𝐋L",
   "𝐌M\t𝐍N\t𝐎O\t𝐏P\t𝐐Q\t𝐑R\t𝐒S\t𝐓T\t𝐔U\t𝐕V\t𝐖W\t𝐗X\t𝐘Y\t𝐙Z\t𝐚a\t𝐛b\t𝐜c\t𝐝d\t𝐞e\t𝐟f\t𝐠g\t𝐡h\t𝐢i\t𝐣j",
   "𝐤k\t𝐥l\t𝐦m\t𝐧n\t𝐨o\t𝐩p\t𝐪q\t𝐫r\t𝐬s\t𝐭t\t𝐮u\t𝐯v\t𝐰w\t𝐱x\t𝐲y\t𝐳z\t𝐴A\t𝐵B\t𝐶C\t𝐷D\t𝐸E\t𝐹F\t𝐺G\t𝐻H",
   "𝐼I\t𝐽J\t𝐾K\t𝐿L\t𝑀M\t𝑁N\t𝑂O\t𝑃P\t𝑄Q\t𝑅R\t𝑆S\t𝑇T\t𝑈U\t𝑉V\t𝑊W\t𝑋X\t𝑌Y\t𝑍Z\t𝑎a\t𝑏b\t𝑐c\t𝑑d\t𝑒e\t𝑓f",
   "𝑔g\t𝑖i\t𝑗j\t𝑘k\t𝑙l\t𝑚m\t𝑛n\t𝑜o\t𝑝p\t𝑞q\t𝑟r\t𝑠s\t𝑡t\t𝑢u\t𝑣v\t𝑤w\t𝑥x\t𝑦y\t𝑧z\t𝑨A\t𝑩B\t𝑪C\t𝑫D\t𝑬E",
   "𝑭F\t𝑮G\t𝑯H\t𝑰I\t𝑱J\t𝑲K\t𝑳L\t𝑴M\t𝑵N\t𝑶O\t𝑷P\t𝑸Q\t𝑹R\t𝑺S\t𝑻T\t𝑼U\t𝑽V\t𝑾W\t𝑿X\t𝒀Y\t𝒁Z\t𝒂a\t𝒃b\t𝒄c",
   "𝒅d\t𝒆e\t𝒇f\t𝒈g\t𝒉h\t𝒊i\t𝒋j\t𝒌k\t𝒍l\t𝒎m\t𝒏n\t𝒐o\t𝒑p\t𝒒q\t𝒓r\t𝒔s\t𝒕t\t𝒖u\t𝒗v\t𝒘w\t𝒙x\t𝒚y\t𝒛z\t𝒜A",
   "𝒞C\t𝒟D\t𝒢G\t𝒥J\t𝒦K\t𝒩N\t𝒪O\t𝒫P\t𝒬Q\t𝒮S\t𝒯T\t𝒰U\t𝒱V\t𝒲W\t𝒳X\t𝒴Y\t𝒵Z\t𝒶a\t𝒷b\t𝒸c\t𝒹d\t𝒻f\t𝒽h\t𝒾i",
   "𝒿j\t𝓀k\t𝓂m\t𝓃n\t𝓅p\t𝓆q\t𝓇r\t𝓈s\t𝓉t\t𝓊u\t𝓋v\t𝓌w\t𝓍x\t𝓎y\t𝓏z\t𝓐A\t𝓑B\t𝓒C\t𝓓D\t𝓔E\t𝓕F\t𝓖G\t𝓗H\t𝓘I",
   "𝓙J\t𝓚K\t𝓛L\t𝓜M\t𝓝N\t𝓞O\t𝓟P\t𝓠Q\t𝓡R\t𝓢S\t𝓣T\t𝓤U\t𝓥V\t𝓦W\t𝓧X\t𝓨Y\t𝓩Z\t𝓪a\t𝓫b\t𝓬c\t𝓭d\t𝓮e\t𝓯f\t𝓰g",
   "𝓱h\t𝓲i\t𝓳j\t𝓴k\t𝓵l\t𝓶m\t𝓷n\t𝓸o\t𝓹p\t𝓺q\t𝓻r\t𝓼s\t𝓽t\t𝓾u\t𝓿v\t𝔀w\t𝔁x\t𝔂y\t𝔃z\t𝔄A\t𝔅B\t𝔇D\t𝔈E\t𝔉F",
   "𝔊G\t𝔍J\t𝔎K\t𝔏L\t𝔐M\t𝔑N\t𝔒O\t𝔓P\t𝔔Q\t𝔖S\t𝔗T\t𝔘U\t𝔙V\t𝔚W\t𝔛X\t𝔜Y\t𝔞a\t𝔟b\t𝔠c\t𝔡d\t𝔢e\t𝔣f\t𝔤g\t𝔥h",
   "𝔦i\t𝔧j\t𝔨k\t𝔩l\t𝔪m\t𝔫n\t𝔬o\t𝔭p\t𝔮q\t𝔯r\t𝔰s\t𝔱t\t𝔲u\t𝔳v\t𝔴w\t𝔵x\t𝔶y\t𝔷z\t𝔸A\t𝔹B\t𝔻D\t𝔼E\t𝔽F\t𝔾G",
   "𝕀I\t𝕁J\t𝕂K\t𝕃L\t𝕄M\t𝕆O\t𝕊S\t𝕋T\t𝕌U\t𝕍V\t𝕎W\t𝕏X\t𝕐Y\t𝕒a\t𝕓b\t𝕔c\t𝕕d\t𝕖e\t𝕗f\t𝕘g\t𝕙h\t𝕚i\t𝕛j\t𝕜k",
   "𝕝l\t𝕞m\t𝕟n\t𝕠o\t𝕡p\t𝕢q\t𝕣r\t𝕤s\t𝕥t\t𝕦u\t𝕧v\t𝕨w\t𝕩x\t𝕪y\t𝕫z\t𝕬A\t𝕭B\t𝕮C\t𝕯D\t𝕰E\t𝕱F\t𝕲G\t𝕳H\t𝕴I",
   "𝕵J\t𝕶K\t𝕷L\t𝕸M\t𝕹N\t𝕺O\t𝕻P\t𝕼Q\t𝕽R\t𝕾S\t𝕿T\t𝖀U\t𝖁V\t𝖂W\t𝖃X\t𝖄Y\t𝖅Z\t𝖆a\t𝖇b\t𝖈c\t𝖉d\t𝖊e\t𝖋f\t𝖌g",
   "𝖍h\t𝖎i\t𝖏j\t𝖐k\t𝖑l\t𝖒m\t𝖓n\t𝖔o\t𝖕p\t𝖖q\t𝖗r\t𝖘s\t𝖙t\t𝖚u\t𝖛v\t𝖜w\t𝖝x\t𝖞y\t𝖟z\t𝖠A\t𝖡B\t𝖢C\t𝖣D\t𝖤E",
   "𝖥F\t𝖦G\t𝖧H\t𝖨I\t𝖩J\t𝖪K\t𝖫L\t𝖬M\t𝖭N\t𝖮O\t𝖯P\t𝖰Q\t𝖱R\t𝖲S\t𝖳T\t𝖴U\t𝖵V\t𝖶W\t𝖷X\t𝖸Y\t𝖹Z\t𝖺a\t𝖻b\t𝖼c",
   "𝖽d\t𝖾e\t𝖿f\t𝗀g\t𝗁h\t𝗂i\t𝗃j\t𝗄k\t𝗅l\t𝗆m\t𝗇n\t𝗈o\t𝗉p\t𝗊q\t𝗋r\t𝗌s\t𝗍t\t𝗎u\t𝗏v\t𝗐w\t𝗑x\t𝗒y\t𝗓z\t𝗔A",
   "𝗕B\t𝗖C\t𝗗D\t𝗘E\t𝗙F\t𝗚G\t𝗛H\t𝗜I\t𝗝J\t𝗞K\t𝗟L\t𝗠M\t𝗡N\t𝗢O\t𝗣P\t𝗤Q\t𝗥R\t𝗦S\t𝗧T\t𝗨U\t𝗩V\t𝗪W\t𝗫X\t𝗬Y",
   "𝗭Z\t𝗮a\t𝗯b\t𝗰c\t𝗱d\t𝗲e\t𝗳f\t𝗴g\t𝗵h\t𝗶i\t𝗷j\t𝗸k\t𝗹l\t𝗺m\t𝗻n\t𝗼o\t𝗽p\t𝗾q\t𝗿r\t𝘀s\t𝘁t\t𝘂u\t𝘃v\t𝘄w",
   "𝘅x\t𝘆y\t𝘇z\t𝘈A\t𝘉B\t𝘊C\t𝘋D\t𝘌E\t𝘍F\t𝘎G\t𝘏H\t𝘐I\t𝘑J\t𝘒K\t𝘓L\t𝘔M\t𝘕N\t𝘖O\t𝘗P\t𝘘Q\t𝘙R\t𝘚S\t𝘛T\t𝘜U",
   "𝘝V\t𝘞W\t𝘟X\t𝘠Y\t𝘡Z\t𝘢a\t𝘣b\t𝘤c\t𝘥d\t𝘦e\t𝘧f\t𝘨g\t𝘩h\t𝘪i\t𝘫j\t𝘬k\t𝘭l\t𝘮m\t𝘯n\t𝘰o\t𝘱p\t𝘲q\t𝘳r\t𝘴s",
   "𝘵t\t𝘶u\t𝘷v\t𝘸w\t𝘹x\t𝘺y\t𝘻z\t𝘼A\t𝘽B\t𝘾C\t𝘿D\t𝙀E\t𝙁F\t𝙂G\t𝙃H\t𝙄I\t𝙅J\t𝙆K\t𝙇L\t𝙈M\t𝙉N\t𝙊O\t𝙋P\t𝙌Q",
   "𝙍R\t𝙎S\t𝙏T\t𝙐U\t𝙑V\t𝙒W\t𝙓X\t𝙔Y\t𝙕Z\t𝙖a\t𝙗b\t𝙘c\t𝙙d\t𝙚e\t𝙛f\t𝙜g\t𝙝h\t𝙞i\t𝙟j\t𝙠k\t𝙡l\t𝙢m\t𝙣n\t𝙤o",
   "𝙥p\t𝙦q\t𝙧r\t𝙨s\t𝙩t\t𝙪u\t𝙫v\t𝙬w\t𝙭x\t𝙮y\t𝙯z\t𝙰A\t𝙱B\t𝙲C\t𝙳D\t𝙴E\t𝙵F\t𝙶G\t𝙷H\t𝙸I\t𝙹J\t𝙺K\t𝙻L\t𝙼M",
   "𝙽N\t𝙾O\t𝙿P\t𝚀Q\t𝚁R\t𝚂S\t𝚃T\t𝚄U\t𝚅V\t𝚆W\t𝚇X\t𝚈Y\t𝚉Z\t𝚊a\t𝚋b\t𝚌c\t𝚍d\t𝚎e\t𝚏f\t𝚐g\t𝚑h\t𝚒i\t𝚓j\t𝚔k",
   "𝚕l\t𝚖m\t𝚗n\t𝚘o\t𝚙p\t𝚚q\t𝚛r\t𝚜s\t𝚝t\t𝚞u\t𝚟v\t𝚠w\t𝚡x\t𝚢y\t𝚣z\t𝚨Α\t𝚩Β\t𝚪Γ\t𝚫Δ\t𝚬Ε\t𝚭Ζ\t𝚮Η\t𝚯Θ\t𝚰Ι",
   "𝚱Κ\t𝚲Λ\t𝚳Μ\t𝚴Ν\t𝚵Ξ\t𝚶Ο\t𝚷Π\t𝚸Ρ\t𝚹Θ\t𝚺Σ\t𝚻Τ\t𝚼Υ\t𝚽Φ\t𝚾Χ\t𝚿Ψ\t𝛀Ω\t𝛁∇\t𝛂α\t𝛃β\t𝛄γ\t𝛅δ\t𝛆ε\t𝛇ζ\t𝛈η",
   "𝛉θ\t𝛊ι\t𝛋κ\t𝛌λ\t𝛍μ\t𝛎ν\t𝛏ξ\t𝛐ο\t𝛑π\t𝛒ρ\t𝛓ς\t𝛔σ\t𝛕τ\t𝛖υ\t𝛗φ\t𝛘χ\t𝛙ψ\t𝛚ω\t𝛛∂\t𝛜ε\t𝛝θ\t𝛞κ\t𝛟φ\t𝛠ρ",
   "𝛡π\t𝛢Α\t𝛣Β\t𝛤Γ\t𝛥Δ\t𝛦Ε\t𝛧Ζ\t𝛨Η\t𝛩Θ\t𝛪Ι\t𝛫Κ\t𝛬Λ\t𝛭Μ\t𝛮Ν\t𝛯Ξ\t𝛰Ο\t𝛱Π\t𝛲Ρ\t𝛳Θ\t𝛴Σ\t𝛵Τ\t𝛶Υ\t𝛷Φ\t𝛸Χ",
   "𝛹Ψ\t𝛺Ω\t𝛻∇\t𝛼α\t𝛽β\t𝛾γ\t𝛿δ\t𝜀ε\t𝜁ζ\t𝜂η\t𝜃θ\t𝜄ι\t𝜅κ\t𝜆λ\t𝜇μ\t𝜈ν\t𝜉ξ\t𝜊ο\t𝜋π\t𝜌ρ\t𝜍ς\t𝜎σ\t𝜏τ\t𝜐υ",
   "𝜑φ\t𝜒χ\t𝜓ψ\t𝜔ω\t𝜕∂\t𝜖ε\t𝜗θ\t𝜘κ\t𝜙φ\t𝜚ρ\t𝜛π\t𝜜Α\t𝜝Β\t𝜞Γ\t𝜟Δ\t𝜠Ε\t𝜡Ζ\t𝜢Η\t𝜣Θ\t𝜤Ι\t𝜥Κ\t𝜦Λ\t𝜧Μ\t𝜨Ν",
   "𝜩Ξ\t𝜪Ο\t𝜫Π\t𝜬Ρ\t𝜭Θ\t𝜮Σ\t𝜯Τ\t𝜰Υ\t𝜱Φ\t𝜲Χ\t𝜳Ψ\t𝜴Ω\t𝜵∇\t𝜶α\t𝜷β\t𝜸γ\t𝜹δ\t𝜺ε\t𝜻ζ\t𝜼η\t𝜽θ\t𝜾ι\t𝜿κ\t𝝀λ",
   "𝝁μ\t𝝂ν\t𝝃ξ\t𝝄ο\t𝝅π\t𝝆ρ\t𝝇ς\t𝝈σ\t𝝉τ\t𝝊υ\t𝝋φ\t𝝌χ\t𝝍ψ\t𝝎ω\t𝝏∂\t𝝐ε\t𝝑θ\t𝝒κ\t𝝓φ\t𝝔ρ\t𝝕π\t𝝖Α\t𝝗Β\t𝝘Γ",
   "𝝙Δ\t𝝚Ε\t𝝛Ζ\t𝝜Η\t𝝝Θ\t𝝞Ι\t𝝟Κ\t𝝠Λ\t𝝡Μ\t𝝢Ν\t𝝣Ξ\t𝝤Ο\t𝝥Π\t𝝦Ρ\t𝝧Θ\t𝝨Σ\t𝝩Τ\t𝝪Υ\t𝝫Φ\t𝝬Χ\t𝝭Ψ\t𝝮Ω\t𝝯∇\t𝝰α",
   "𝝱β\t𝝲γ\t𝝳δ\t𝝴ε\t𝝵ζ\t𝝶η\t𝝷θ\t𝝸ι\t𝝹κ\t𝝺λ\t𝝻μ\t𝝼ν\t𝝽ξ\t𝝾ο\t𝝿π\t𝞀ρ\t𝞁ς\t𝞂σ\t𝞃τ\t𝞄υ\t𝞅φ\t𝞆χ\t𝞇ψ\t𝞈ω",
   "𝞉∂\t𝞊ε\t𝞋θ\t𝞌κ\t𝞍φ\t𝞎ρ\t𝞏π\t𝞐Α\t𝞑Β\t𝞒Γ\t𝞓Δ\t𝞔Ε\t𝞕Ζ\t𝞖Η\t𝞗Θ\t𝞘Ι\t𝞙Κ\t𝞚Λ\t𝞛Μ\t𝞜Ν\t𝞝Ξ\t𝞞Ο\t𝞟Π\t𝞠Ρ",
   "𝞡Θ\t𝞢Σ\t𝞣Τ\t𝞤Υ\t𝞥Φ\t𝞦Χ\t𝞧Ψ\t𝞨Ω\t𝞩∇\t𝞪α\t𝞫β\t𝞬γ\t𝞭δ\t𝞮ε\t𝞯ζ\t𝞰η\t𝞱θ\t𝞲ι\t𝞳κ\t𝞴λ\t𝞵μ\t𝞶ν\t𝞷ξ\t𝞸ο",
   "𝞹π\t𝞺ρ\t𝞻ς\t𝞼σ\t𝞽τ\t𝞾υ\t𝞿φ\t𝟀χ\t𝟁ψ\t𝟂ω\t𝟃∂\t𝟄ε\t𝟅θ\t𝟆κ\t𝟇φ\t𝟈ρ\t𝟉π\t𝟎0\t𝟏1\t𝟐2\t𝟑3\t𝟒4\t𝟓5\t𝟔6",
   "𝟕7\t𝟖8\t𝟗9\t𝟘0\t𝟙1\t𝟚2\t𝟛3\t𝟜4\t𝟝5\t𝟞6\t𝟟7\t𝟠8\t𝟡9\t𝟢0\t𝟣1\t𝟤2\t𝟥3\t𝟦4\t𝟧5\t𝟨6\t𝟩7\t𝟪8\t𝟫9\t𝟬0",
   "𝟭1\t𝟮2\t𝟯3\t𝟰4\t𝟱5\t𝟲6\t𝟳7\t𝟴8\t𝟵9\t𝟶0\t𝟷1\t𝟸2\t𝟹3\t𝟺4\t𝟻5\t𝟼6\t𝟽7\t𝟾8\t𝟿9\t丽丽\t丸丸\t乁乁\t𠄢𠄢\t你你",
   "侮侮\t侻侻\t倂倂\t偺偺\t備備\t僧僧\t像像\t㒞㒞\t𠘺𠘺\t免免\t兔兔\t兤兤\t具具\t𠔜𠔜\t㒹㒹\t內內\t再再\t𠕋𠕋\t冗冗\t冤冤\t仌仌\t冬冬\t况况\t𩇟𩇟",
   "凵凵\t刃刃\t㓟㓟\t刻刻\t剆剆\t割割\t剷剷\t㔕㔕\t勇勇\t勉勉\t勤勤\t勺勺\t包包\t匆匆\t北北\t卉卉\t卑卑\t博博\t即即\t卽卽\t卿卿\t卿卿\t卿卿\t𠨬𠨬",
   "灰灰\t及及\t叟叟\t𠭣𠭣\t叫叫\t叱叱\t吆吆\t咞咞\t吸吸\t呈呈\t周周\t咢咢\t哶哶\t唐唐\t啓啓\t啣啣\t善善\t善善\t喙喙\t喫喫\t喳喳\t嗂嗂\t圖圖\t嘆嘆",
   "圗圗\t噑噑\t噴噴\t切切\t壮壮\t城城\t埴埴\t堍堍\t型型\t堲堲\t報報\t墬墬\t𡓤𡓤\t売売\t壷壷\t夆夆\t多多\t夢夢\t奢奢\t𡚨𡚨\t𡛪𡛪\t姬姬\t娛娛\t娧娧",
   "姘姘\t婦婦\t㛮㛮\t㛼𡍪\t嬈嬈\t嬾嬾\t嬾嬾\t𡧈𡧈\t寃寃\t寘寘\t寧寧\t寳寳\t𡬘𡬘\t寿寿\t将将\t当弳\t尢尢\t㞁㞁\t屠屠\t屮屮\t峀峀\t岍岍\t𡷤𡷤\t嵃嵃",
   "𡷦𡷦\t嵮嵮\t嵫嵫\t嵼嵼\t巡巡\t巢巢\t㠯㠯\t巽巽\t帨帨\t帽帽\t幩幩\t㡢㡢\t𢆃𢆃\t㡼㡼\t庰庰\t庳庳\t庶庶\t廊廊\t𪎒𪎒\t廾廾\t𢌱𢌱\t𢌱𢌱\t舁舁\t弢弢",
   "弢弢\t㣇㣇\t𣊸𣊸\t𦇚𦇚\t形形\t彫彫\t㣣㣣\t徚徚\t忍忍\t志志\t忹忹\t悁悁\t㤺㤺\t㤜㤜\t悔悔\t𢛔𢛔\t惇惇\t慈慈\t慌慌\t慎慎\t慌慌\t慺慺\t憎憎\t憲憲",
   "憤憤\t憯憯\t懞懞\t懲懲\t懶懶\t成成\t戛戛\t扝扝\t抱抱\t拔拔\t捐捐\t𢬌𢬌\t挽挽\t拼拼\t捨捨\t掃掃\t揤揤\t𢯱𢯱\t搢搢\t揅揅\t掩掩\t㨮㨮\t摩摩\t摾摾",
   "撝撝\t摷摷\t㩬㩬\t敏敏\t敬敬\t𣀊𣀊\t旣旣\t書書\t晉晉\t㬙㬙\t暑暑\t㬈㬈\t㫤㫤\t冒冒\t冕冕\t最最\t暜暜\t肭肭\t䏙䏙\t朗朗\t望望\t朡朡\t杞杞\t杓杓",
   "𣏃𣏃\t㭉㭉\t柺柺\t枅枅\t桒桒\t梅梅\t𣑭𣑭\t梎梎\t栟栟\t椔椔\t㮝㮝\t楂楂\t榣榣\t槪槪\t檨檨\t𣚣𣚣\t櫛櫛\t㰘㰘\t次次\t𣢧𣢧\t歔歔\t㱎㱎\t歲歲\t殟殟",
   "殺殺\t殻殻\t𣪍𣪍\t𡴋𡴋\t𣫺𣫺\t汎汎\t𣲼𣲼\t沿沿\t泍泍\t汧汧\t洖洖\t派派\t海海\t流流\t浩浩\t浸浸\t涅涅\t𣴞𣴞\t洴洴\t港港\t湮湮\t㴳㴳\t滋滋\t滇滇",
   "𣻑𣻑\t淹淹\t潮潮\t𣽞𣽞\t𣾎𣾎\t濆濆\t瀹瀹\t瀞瀞\t瀛瀛\t㶖㶖\t灊灊\t災災\t灷灷\t炭炭\t𠔥𠔥\t煅煅\t𤉣𤉣\t熜熜\t𤎫䎫\t爨爨\t爵爵\t牐牐\t𤘈𤘈\t犀犀",
   "犕犕\t𤜵𤜵\t𤠔𤠔\t獺獺\t王王\t㺬㺬\t玥玥\t㺸㺸\t㺸㺸\t瑇瑇\t瑜瑜\t瑱瑱\t璅璅\t瓊瓊\t㼛㼛\t甤甤\t𤰶𤰶\t甾甾\t𤲒𤲒\t異異\t𢆟𢆟\t瘐瘐\t𤾡𤾡\t𤾸𤾸",
   "𥁄𥁄\t㿼㿼\t䀈䀈\t直直\t𥃳𥃳\t𥃲𥃲\t𥄙𥄙\t𥄳𥄳\t眞眞\t真真\t真真\t睊睊\t䀹䀹\t瞋瞋\t䁆䁆\t䂖䂖\t𥐝𥐝\t硎硎\t碌碌\t磌磌\t䃣䃣\t𥘦𥘦\t祖祖\t𥚚𥚚",
   "𥛅𥛅\t福福\t秫秫\t䄯䄯\t穀穀\t穊穊\t穏穏\t𥥼𥥼\t𥪧𥪧\t𥪧𥪧\t竮窮\t䈂䈂\t𥮫𥮫\t篆篆\t築築\t䈧䈧\t𥲀𥲀\t糒糒\t䊠䊠\t糨糨\t糣糣\t紀紀\t𥾆𥾆\t絣絣",
   "䌁䌁\t緇緇\t縂縂\t繅繅\t䌴䌴\t𦈨𦈨\t𦉇𦉇\t䍙䍙\t𦋙𦋙\t罺罺\t𦌾𦌾\t羕羕\t翺翺\t者者\t𦓚𦓚\t𦔣𦔣\t聠聠\t𦖨𦖨\t聰聰\t𣍟𣍟\t䏕䏕\t育育\t脃脃\t䐋䐋",
   "脾脾\t媵媵\t𦞧𦞧\t𦞵𦞵\t𣎓𣎓\t𣎜𣎜\t舁舁\t舄舄\t辞辞\t䑫䑫\t芑芑\t芋芋\t芝芝\t劳劳\t花花\t芳芳\t芽芽\t苦苦\t𦬼𦬼\t若若\t茝茝\t荣荣\t莭莭\t茣茣",
   "莽莽\t菧菧\t著著\t荓荓\t菊菊\t菌菌\t菜菜\t𦰶𦰶\t𦵫𦵫\t𦳕𦳕\t䔫䔫\t蓱蓱\t蓳蓳\t蔖蔖\t𧏊𧏊\t蕤蕤\t𦼬𦼬\t䕝䕝\t䕡䕡\t𦾱𦾱\t𧃒𧃒\t䕫䕫\t虐虐\t虜虜",
   "虧虧\t虩虩\t蚩蚩\t蚈蚈\t蜎蜎\t蛢蛢\t蝹蝹\t蜨蜨\t蝫蝫\t螆螆\t䗗䵗\t蟡蟡\t蠁蠁\t䗹䗹\t衠衠\t衣衣\t𧙧𧙧\t裗裗\t裞裞\t䘵䘵\t裺裺\t㒻㒻\t𧢮𧢮\t𧥦𧥦",
   "䚾䚾\t䛇䛇\t誠誠\t諭諭\t變變\t豕豕\t𧲨𧲨\t貫貫\t賁賁\t贛贛\t起起\t𧼯𧼯\t𠠄𠠄\t跋跋\t趼趼\t跰跰\t𠣞𠣞\t軔軔\t輸輸\t𨗒𨗒\t𨗭𨗭\t邔邔\t郱郱\t鄑鄑",
   "𨜮𨜮\t鄛鄛\t鈸鈸\t鋗鋗\t鋘鋘\t鉼鉼\t鏹鏹\t鐕鐕\t𨯺𨯺\t開開\t䦕䦕\t閷閷\t𨵷𨵷\t䧦䧦\t雃雃\t嶲嶲\t霣霣\t𩅅𩅅\t𩈚𩈚\t䩮䩮\t䩶䩶\t韠韠\t𩐊𩐊\t䪲䪲",
   "𩒖𩒖\t頋頋\t頋頋\t頩頩\t𩖶𩖶\t飢飢\t䬳䬳\t餩餩\t馧馧\t駂駂\t駾駾\t䯎䯎\t𩬰𩬰\t鬒鬒\t鱀鱀\t鳽鳽\t䳎䳎\t䳭䳭\t鵧鵧\t𪃎𪃎\t䳸䳸\t𪄅𪄅\t𪈎𪈎\t𪊑𪊑",
   "麻麻\t䵖䵖\t黹黹\t黾黾\t鼅鼅\t鼏鼏\t鼖鼖\t鼻鼻\t𪘀𪘀"]

/-- The combining classes of ranges of characters; all others are of class 0. -/
def classes : List (Nat × Nat × Nat) :=
  [(0x300, 0x314, 230), (0x315, 0x315, 232), (0x316, 0x319, 220), (0x31A, 0x31A, 232),
   (0x31B, 0x31B, 216), (0x31C, 0x320, 220), (0x321, 0x322, 202), (0x323, 0x326, 220),
   (0x327, 0x328, 202), (0x329, 0x333, 220), (0x334, 0x338, 1), (0x339, 0x33C, 220),
   (0x33D, 0x344, 230), (0x345, 0x345, 240), (0x346, 0x346, 230), (0x347, 0x349, 220),
   (0x34A, 0x34C, 230), (0x34D, 0x34E, 220), (0x350, 0x352, 230), (0x353, 0x356, 220),
   (0x357, 0x357, 230), (0x358, 0x358, 232), (0x359, 0x35A, 220), (0x35B, 0x35B, 230),
   (0x35C, 0x35C, 233), (0x35D, 0x35E, 234), (0x35F, 0x35F, 233), (0x360, 0x361, 234),
   (0x362, 0x362, 233), (0x363, 0x36F, 230), (0x483, 0x487, 230), (0x591, 0x591, 220),
   (0x592, 0x595, 230), (0x596, 0x596, 220), (0x597, 0x599, 230), (0x59A, 0x59A, 222),
   (0x59B, 0x59B, 220), (0x59C, 0x5A1, 230), (0x5A2, 0x5A7, 220), (0x5A8, 0x5A9, 230),
   (0x5AA, 0x5AA, 220), (0x5AB, 0x5AC, 230), (0x5AD, 0x5AD, 222), (0x5AE, 0x5AE, 228),
   (0x5AF, 0x5AF, 230), (0x5B0, 0x5B0, 10), (0x5B1, 0x5B1, 11), (0x5B2, 0x5B2, 12),
   (0x5B3, 0x5B3, 13), (0x5B4, 0x5B4, 14), (0x5B5, 0x5B5, 15), (0x5B6, 0x5B6, 16),
   (0x5B7, 0x5B7, 17), (0x5B8, 0x5B8, 18), (0x5B9, 0x5BA, 19), (0x5BB, 0x5BB, 20),
   (0x5BC, 0x5BC, 21), (0x5BD, 0x5BD, 22), (0x5BF, 0x5BF, 23), (0x5C1, 0x5C1, 24),
   (0x5C2, 0x5C2, 25), (0x5C4, 0x5C4, 230), (0x5C5, 0x5C5, 220), (0x5C7, 0x5C7, 18),
   (0x610, 0x617, 230), (0x618, 0x618, 30), (0x619, 0x619, 31), (0x61A, 0x61A, 32),
   (0x64B, 0x64B, 27), (0x64C, 0x64C, 28), (0x64D, 0x64D, 29), (0x64E, 0x64E, 30),
   (0x64F, 0x64F, 31), (0x650, 0x650, 32), (0x651, 0x651, 33), (0x652, 0x652, 34),
   (0x653, 0x654, 230), (0x655, 0x656, 220), (0x657, 0x65B, 230), (0x65C, 0x65C, 220),
   (0x65D, 0x65E, 230), (0x65F, 0x65F, 220), (0x670, 0x670, 35), (0x6D6, 0x6DC, 230),
   (0x6DF, 0x6E2, 230), (0x6E3, 0x6E3, 220), (0x6E4, 0x6E4, 230), (0x6E7, 0x6E8, 230),
   (0x6EA, 0x6EA, 220), (0x6EB, 0x6EC, 230), (0x6ED, 0x6ED, 220), (0x711, 0x711, 36),
   (0x730, 0x730, 230), (0x731, 0x731, 220), (0x732, 0x733, 230), (0x734, 0x734, 220),
   (0x735, 0x736, 230), (0x737, 0x739, 220), (0x73A, 0x73A, 230), (0x73B, 0x73C, 220),
   (0x73D, 0x73D, 230), (0x73E, 0x73E, 220), (0x73F, 0x741, 230), (0x742, 0x742, 220),
   (0x743, 0x743, 230), (0x744, 0x744, 220), (0x745, 0x745, 230), (0x746, 0x746, 220),
   (0x747, 0x747, 230), (0x748, 0x748, 220), (0x749, 0x74A, 230), (0x7EB, 0x7F1, 230),
   (0x7F2, 0x7F2, 220), (0x7F3, 0x7F3, 230), (0x7FD, 0x7FD, 220), (0x816, 0x819, 230),
   (0x81B, 0x823, 230), (0x825, 0x827, 230), (0x829, 0x82D, 230), (0x859, 0x85B, 220),
   (0x898, 0x898, 230), (0x899, 0x89B, 220), (0x89C, 0x89F, 230), (0x8CA, 0x8CE, 230),
   (0x8CF, 0x8D3, 220), (0x8D4, 0x8E1, 230), (0x8E3, 0x8E3, 220), (0x8E4, 0x8E5, 230),
   (0x8E6, 0x8E6, 220), (0x8E7, 0x8E8, 230), (0x8E9, 0x8E9, 220), (0x8EA, 0x8EC, 230),
   (0x8ED, 0x8EF, 220), (0x8F0, 0x8F0, 27), (0x8F1, 0x8F1, 28), (0x8F2, 0x8F2, 29),
   (0x8F3, 0x8F5, 230), (0x8F6, 0x8F6, 220), (0x8F7, 0x8F8, 230), (0x8F9, 0x8FA, 220),
   (0x8FB, 0x8FF, 230), (0x93C, 0x93C, 7), (0x94D, 0x94D, 9), (0x951, 0x951, 230),
   (0x952, 0x952, 220), (0x953, 0x954, 230), (0x9BC, 0x9BC, 7), (0x9CD, 0x9CD, 9),
   (0x9FE, 0x9FE, 230), (0xA3C, 0xA3C, 7), (0xA4D, 0xA4D, 9), (0xABC, 0xABC, 7),
   (0xACD, 0xACD, 9), (0xB3C, 0xB3C, 7), (0xB4D, 0xB4D, 9), (0xBCD, 0xBCD, 9), (0xC3C, 0xC3C, 7),
   (0xC4D, 0xC4D, 9), (0xC55, 0xC55, 84), (0xC56, 0xC56, 91), (0xCBC, 0xCBC, 7),
   (0xCCD, 0xCCD, 9), (0xD3B, 0xD3C, 9), (0xD4D, 0xD4D, 9), (0xDCA, 0xDCA, 9),
   (0xE38, 0xE39, 103), (0xE3A, 0xE3A, 9), (0xE48, 0xE4B, 107), (0xEB8, 0xEB9, 118),
   (0xEBA, 0xEBA, 9), (0xEC8, 0xECB, 122), (0xF18, 0xF19, 220), (0xF35, 0xF35, 220),
   (0xF37, 0xF37, 220), (0xF39, 0xF39, 216), (0xF71, 0xF71, 129), (0xF72, 0xF72, 130),
   (0xF74, 0xF74, 132), (0xF7A, 0xF7D, 130), (0xF80, 0xF80, 130), (0xF82, 0xF83, 230),
   (0xF84, 0xF84, 9), (0xF86, 0xF87, 230), (0xFC6, 0xFC6, 220), (0x1037, 0x1037, 7),
   (0x1039, 0x103A, 9), (0x108D, 0x108D, 220), (0x135D, 0x135F, 230), (0x1714, 0x1715, 9),
   (0x1734, 0x1734, 9), (0x17D2, 0x17D2, 9), (0x17DD, 0x17DD, 230), (0x18A9, 0x18A9, 228),
   (0x1939, 0x1939, 222), (0x193A, 0x193A, 230), (0x193B, 0x193B, 220), (0x1A17, 0x1A17, 230),
   (0x1A18, 0x1A18, 220), (0x1A60, 0x1A60, 9), (0x1A75, 0x1A7C, 230), (0x1A7F, 0x1A7F, 220),
   (0x1AB0, 0x1AB4, 230), (0x1AB5, 0x1ABA, 220), (0x1ABB, 0x1ABC, 230), (0x1ABD, 0x1ABD, 220),
   (0x1ABF, 0x1AC0, 220), (0x1AC1, 0x1AC2, 230), (0x1AC3, 0x1AC4, 220), (0x1AC5, 0x1AC9, 230),
   (0x1ACA, 0x1ACA, 220), (0x1ACB, 0x1ACE, 230), (0x1B34, 0x1B34, 7), (0x1B44, 0x1B44, 9),
   (0x1B6B, 0x1B6B, 230), (0x1B6C, 0x1B6C, 220), (0x1B6D, 0x1B73, 230), (0x1BAA, 0x1BAB, 9),
   (0x1BE6, 0x1BE6, 7), (0x1BF2, 0x1BF3, 9), (0x1C37, 0x1C37, 7), (0x1CD0, 0x1CD2, 230),
   (0x1CD4, 0x1CD4, 1), (0x1CD5, 0x1CD9, 220), (0x1CDA, 0x1CDB, 230), (0x1CDC, 0x1CDF, 220),
   (0x1CE0, 0x1CE0, 230), (0x1CE2, 0x1CE8, 1), (0x1CED, 0x1CED, 220), (0x1CF4, 0x1CF4, 230),
   (0x1CF8, 0x1CF9, 230), (0x1DC0, 0x1DC1, 230), (0x1DC2, 0x1DC2, 220), (0x1DC3, 0x1DC9, 230),
   (0x1DCA, 0x1DCA, 220), (0x1DCB, 0x1DCC, 230), (0x1DCD, 0x1DCD, 234), (0x1DCE, 0x1DCE, 214),
   (0x1DCF, 0x1DCF, 220), (0x1DD0, 0x1DD0, 202), (0x1DD1, 0x1DF5, 230), (0x1DF6, 0x1DF6, 232),
   (0x1DF7, 0x1DF8, 228), (0x1DF9, 0x1DF9, 220), (0x1DFA, 0x1DFA, 218), (0x1DFB, 0x1DFB, 230),
   (0x1DFC, 0x1DFC, 233), (0x1DFD, 0x1DFD, 220), (0x1DFE, 0x1DFE, 230), (0x1DFF, 0x1DFF, 220),
   (0x20D0, 0x20D1, 230), (0x20D2, 0x20D3, 1), (0x20D4, 0x20D7, 230), (0x20D8, 0x20DA, 1),
   (0x20DB, 0x20DC, 230), (0x20E1, 0x20E1, 230), (0x20E5, 0x20E6, 1), (0x20E7, 0x20E7, 230),
   (0x20E8, 0x20E8, 220), (0x20E9, 0x20E9, 230), (0x20EA, 0x20EB, 1), (0x20EC, 0x20EF, 220),
   (0x20F0, 0x20F0, 230), (0x2CEF, 0x2CF1, 230), (0x2D7F, 0x2D7F, 9), (0x2DE0, 0x2DFF, 230),
   (0x302A, 0x302A, 218), (0x302B, 0x302B, 228), (0x302C, 0x302C, 232), (0x302D, 0x302D, 222),
   (0x302E, 0x302F, 224), (0x3099, 0x309A, 8), (0xA66F, 0xA66F, 230), (0xA674, 0xA67D, 230),
   (0xA69E, 0xA69F, 230), (0xA6F0, 0xA6F1, 230), (0xA806, 0xA806, 9), (0xA82C, 0xA82C, 9),
   (0xA8C4, 0xA8C4, 9), (0xA8E0, 0xA8F1, 230), (0xA92B, 0xA92D, 220), (0xA953, 0xA953, 9),
   (0xA9B3, 0xA9B3, 7), (0xA9C0, 0xA9C0, 9), (0xAAB0, 0xAAB0, 230), (0xAAB2, 0xAAB3, 230),
   (0xAAB4, 0xAAB4, 220), (0xAAB7, 0xAAB8, 230), (0xAABE, 0xAABF, 230), (0xAAC1, 0xAAC1, 230),
   (0xAAF6, 0xAAF6, 9), (0xABED, 0xABED, 9), (0xFB1E, 0xFB1E, 26), (0xFE20, 0xFE26, 230),
   (0xFE27, 0xFE2D, 220), (0xFE2E, 0xFE2F, 230), (0x101FD, 0x101FD, 220),
   (0x102E0, 0x102E0, 220), (0x10376, 0x1037A, 230), (0x10A0D, 0x10A0D, 220),
   (0x10A0F, 0x10A0F, 230), (0x10A38, 0x10A38, 230), (0x10A39, 0x10A39, 1),
   (0x10A3A, 0x10A3A, 220), (0x10A3F, 0x10A3F, 9), (0x10AE5, 0x10AE5, 230),
   (0x10AE6, 0x10AE6, 220), (0x10D24, 0x10D27, 230), (0x10EAB, 0x10EAC, 230),
   (0x10F46, 0x10F47, 220), (0x10F48, 0x10F4A, 230), (0x10F4B, 0x10F4B, 220),
   (0x10F4C, 0x10F4C, 230), (0x10F4D, 0x10F50, 220), (0x10F82, 0x10F82, 230),
   (0x10F83, 0x10F83, 220), (0x10F84, 0x10F84, 230), (0x10F85, 0x10F85, 220),
   (0x11046, 0x11046, 9), (0x11070, 0x11070, 9), (0x1107F, 0x1107F, 9), (0x110B9, 0x110B9, 9),
   (0x110BA, 0x110BA, 7), (0x11100, 0x11102, 230), (0x11133, 0x11134, 9), (0x11173, 0x11173, 7),
   (0x111C0, 0x111C0, 9), (0x111CA, 0x111CA, 7), (0x11235, 0x11235, 9), (0x11236, 0x11236, 7),
   (0x112E9, 0x112E9, 7), (0x112EA, 0x112EA, 9), (0x1133B, 0x1133C, 7), (0x1134D, 0x1134D, 9),
   (0x11366, 0x1136C, 230), (0x11370, 0x11374, 230), (0x11442, 0x11442, 9),
   (0x11446, 0x11446, 7), (0x1145E, 0x1145E, 230), (0x114C2, 0x114C2, 9), (0x114C3, 0x114C3, 7),
   (0x115BF, 0x115BF, 9), (0x115C0, 0x115C0, 7), (0x1163F, 0x1163F, 9), (0x116B6, 0x116B6, 9),
   (0x116B7, 0x116B7, 7), (0x1172B, 0x1172B, 9), (0x11839, 0x11839, 9), (0x1183A, 0x1183A, 7),
   (0x1193D, 0x1193E, 9), (0x11943, 0x11943, 7), (0x119E0, 0x119E0, 9), (0x11A34, 0x11A34, 9),
   (0x11A47, 0x11A47, 9), (0x11A99, 0x11A99, 9), (0x11C3F, 0x11C3F, 9), (0x11D42, 0x11D42, 7),
   (0x11D44, 0x11D45, 9), (0x11D97, 0x11D97, 9), (0x16AF0, 0x16AF4, 1), (0x16B30, 0x16B36, 230),
   (0x16FF0, 0x16FF1, 6), (0x1BC9E, 0x1BC9E, 1), (0x1D165, 0x1D166, 216), (0x1D167, 0x1D169, 1),
   (0x1D16D, 0x1D16D, 226), (0x1D16E, 0x1D172, 216), (0x1D17B, 0x1D182, 220),
   (0x1D185, 0x1D189, 230), (0x1D18A, 0x1D18B, 220), (0x1D1AA, 0x1D1AD, 230),
   (0x1D242, 0x1D244, 230), (0x1E000, 0x1E006, 230), (0x1E008, 0x1E018, 230),
   (0x1E01B, 0x1E021, 230), (0x1E023, 0x1E024, 230), (0x1E026, 0x1E02A, 230),
   (0x1E130, 0x1E136, 230), (0x1E2AE, 0x1E2AE, 230), (0x1E2EC, 0x1E2EF, 230),
   (0x1E8D0, 0x1E8D6, 220), (0x1E944, 0x1E949, 230), (0x1E94A, 0x1E94A, 7)]

/-- Two characters and the one that they compose. -/
def compositions : List String :=
  ["<\u0338≮\t=\u0338≠\t>\u0338≯\tA\u0300À\tA\u0301Á\tA\u0302Â\tA\u0303Ã\tA\u0304Ā\tA\u0306Ă",
   "A\u0307Ȧ\tA\u0308Ä\tA\u0309Ả\tA\u030aÅ\tA\u030cǍ\tA\u030fȀ\tA\u0311Ȃ\tA\u0323Ạ\tA\u0325Ḁ",
   "A\u0328Ą\tB\u0307Ḃ\tB\u0323Ḅ\tB\u0331Ḇ\tC\u0301Ć\tC\u0302Ĉ\tC\u0307Ċ\tC\u030cČ\tC\u0327Ç",
   "D\u0307Ḋ\tD\u030cĎ\tD\u0323Ḍ\tD\u0327Ḑ\tD\u032dḒ\tD\u0331Ḏ\tE\u0300È\tE\u0301É\tE\u0302Ê",
   "E\u0303Ẽ\tE\u0304Ē\tE\u0306Ĕ\tE\u0307Ė\tE\u0308Ë\tE\u0309Ẻ\tE\u030cĚ\tE\u030fȄ\tE\u0311Ȇ",
   "E\u0323Ẹ\tE\u0327Ȩ\tE\u0328Ę\tE\u032dḘ\tE\u0330Ḛ\tF\u0307Ḟ\tG\u0301Ǵ\tG\u0302Ĝ\tG\u0304Ḡ",
   "G\u0306Ğ\tG\u0307Ġ\tG\u030cǦ\tG\u0327Ģ\tH\u0302Ĥ\tH\u0307Ḣ\tH\u0308Ḧ\tH\u030cȞ\tH\u0323Ḥ",
   "H\u0327Ḩ\tH\u032eḪ\tI\u0300Ì\tI\u0301Í\tI\u0302Î\tI\u0303Ĩ\tI\u0304Ī\tI\u0306Ĭ\tI\u0307İ",
   "I\u0308Ï\tI\u0309Ỉ\tI\u030cǏ\tI\u030fȈ\tI\u0311Ȋ\tI\u0323Ị\tI\u0328Į\tI\u0330Ḭ\tJ\u0302Ĵ",
   "K\u0301Ḱ\tK\u030cǨ\tK\u0323Ḳ\tK\u0327Ķ\tK\u0331Ḵ\tL\u0301Ĺ\tL\u030cĽ\tL\u0323Ḷ\tL\u0327Ļ",
   "L\u032dḼ\tL\u0331Ḻ\tM\u0301Ḿ\tM\u0307Ṁ\tM\u0323Ṃ\tN\u0300Ǹ\tN\u0301Ń\tN\u0303Ñ\tN\u0307Ṅ",
   "N\u030cŇ\tN\u0323Ṇ\tN\u0327Ņ\tN\u032dṊ\tN\u0331Ṉ\tO\u0300Ò\tO\u0301Ó\tO\u0302Ô\tO\u0303Õ",
   "O\u0304Ō\tO\u0306Ŏ\tO\u0307Ȯ\tO\u0308Ö\tO\u0309Ỏ\tO\u030bŐ\tO\u030cǑ\tO\u030fȌ\tO\u0311Ȏ",
   "O\u031bƠ\tO\u0323Ọ\tO\u0328Ǫ\tP\u0301Ṕ\tP\u0307Ṗ\tR\u0301Ŕ\tR\u0307Ṙ\tR\u030cŘ\tR\u030fȐ",
   "R\u0311Ȓ\tR\u0323Ṛ\tR\u0327Ŗ\tR\u0331Ṟ\tS\u0301Ś\tS\u0302Ŝ\tS\u0307Ṡ\tS\u030cŠ\tS\u0323Ṣ",
   "S\u0326Ș\tS\u0327Ş\tT\u0307Ṫ\tT\u030cŤ\tT\u0323Ṭ\tT\u0326Ț\tT\u0327Ţ\tT\u032dṰ\tT\u0331Ṯ",
   "U\u0300Ù\tU\u0301Ú\tU\u0302Û\tU\u0303Ũ\tU\u0304Ū\tU\u0306Ŭ\tU\u0308Ü\tU\u0309Ủ\tU\u030aŮ",
   "U\u030bŰ\tU\u030cǓ\tU\u030fȔ\tU\u0311Ȗ\tU\u031bƯ\tU\u0323Ụ\tU\u0324Ṳ\tU\u0328Ų\tU\u032dṶ",
   "U\u0330Ṵ\tV\u0303Ṽ\tV\u0323Ṿ\tW\u0300Ẁ\tW\u0301Ẃ\tW\u0302Ŵ\tW\u0307Ẇ\tW\u0308Ẅ\tW\u0323Ẉ",
   "X\u0307Ẋ\tX\u0308Ẍ\tY\u0300Ỳ\tY\u0301Ý\tY\u0302Ŷ\tY\u0303Ỹ\tY\u0304Ȳ\tY\u0307Ẏ\tY\u0308Ÿ",
   "Y\u0309Ỷ\tY\u0323Ỵ\tZ\u0301Ź\tZ\u0302Ẑ\tZ\u0307Ż\tZ\u030cŽ\tZ\u0323Ẓ\tZ\u0331Ẕ\ta\u0300à",
   "a\u0301á\ta\u0302â\ta\u0303ã\ta\u0304ā\ta\u0306ă\ta\u0307ȧ\ta\u0308ä\ta\u0309ả\ta\u030aå",
   "a\u030cǎ\ta\u030fȁ\ta\u0311ȃ\ta\u0323ạ\ta\u0325ḁ\ta\u0328ą\tb\u0307ḃ\tb\u0323ḅ\tb\u0331ḇ",
   "c\u0301ć\tc\u0302ĉ\tc\u0307ċ\tc\u030cč\tc\u0327ç\td\u0307ḋ\td\u030cď\td\u0323ḍ\td\u0327ḑ",
   "d\u032dḓ\td\u0331ḏ\te\u0300è\te\u0301é\te\u0302ê\te\u0303ẽ\te\u0304ē\te\u0306ĕ\te\u0307ė",
   "e\u0308ë\te\u0309ẻ\te\u030cě\te\u030fȅ\te\u0311ȇ\te\u0323ẹ\te\u0327ȩ\te\u0328ę\te\u032dḙ",
   "e\u0330ḛ\tf\u0307ḟ\tg\u0301ǵ\tg\u0302ĝ\tg\u0304ḡ\tg\u0306ğ\tg\u0307ġ\tg\u030cǧ\tg\u0327ģ",
   "h\u0302ĥ\th\u0307ḣ\th\u0308ḧ\th\u030cȟ\th\u0323ḥ\th\u0327ḩ\th\u032eḫ\th\u0331ẖ\ti\u0300ì",
   "i\u0301í\ti\u0302î\ti\u0303ĩ\ti\u0304ī\ti\u0306ĭ\ti\u0308ï\ti\u0309ỉ\ti\u030cǐ\ti\u030fȉ",
   "i\u0311ȋ\ti\u0323ị\ti\u0328į\ti\u0330ḭ\tj\u0302ĵ\tj\u030cǰ\tk\u0301ḱ\tk\u030cǩ\tk\u0323ḳ",
   "k\u0327ķ\tk\u0331ḵ\tl\u0301ĺ\tl\u030cľ\tl\u0323ḷ\tl\u0327ļ\tl\u032dḽ\tl\u0331ḻ\tm\u0301ḿ",
   "m\u0307ṁ\tm\u0323ṃ\tn\u0300ǹ\tn\u0301ń\tn\u0303ñ\tn\u0307ṅ\tn\u030cň\tn\u0323ṇ\tn\u0327ņ",
   "n\u032dṋ\tn\u0331ṉ\to\u0300ò\to\u0301ó\to\u0302ô\to\u0303õ\to\u0304ō\to\u0306ŏ\to\u0307ȯ",
   "o\u0308ö\to\u0309ỏ\to\u030bő\to\u030cǒ\to\u030fȍ\to\u0311ȏ\to\u031bơ\to\u0323ọ\to\u0328ǫ",
   "p\u0301ṕ\tp\u0307ṗ\tr\u0301ŕ\tr\u0307ṙ\tr\u030cř\tr\u030fȑ\tr\u0311ȓ\tr\u0323ṛ\tr\u0327ŗ",
   "r\u0331ṟ\ts\u0301ś\ts\u0302ŝ\ts\u0307ṡ\ts\u030cš\ts\u0323ṣ\ts\u0326ș\ts\u0327ş\tt\u0307ṫ",
   "t\u0308ẗ\tt\u030cť\tt\u0323ṭ\tt\u0326ț\tt\u0327ţ\tt\u032dṱ\tt\u0331ṯ\tu\u0300ù\tu\u0301ú",
   "u\u0302û\tu\u0303ũ\tu\u0304ū\tu\u0306ŭ\tu\u0308ü\tu\u0309ủ\tu\u030aů\tu\u030bű\tu\u030cǔ",
   "u\u030fȕ\tu\u0311ȗ\tu\u031bư\tu\u0323ụ\tu\u0324ṳ\tu\u0328ų\tu\u032dṷ\tu\u0330ṵ\tv\u0303ṽ",
   "v\u0323ṿ\tw\u0300ẁ\tw\u0301ẃ\tw\u0302ŵ\tw\u0307ẇ\tw\u0308ẅ\tw\u030aẘ\tw\u0323ẉ\tx\u0307ẋ",
   "x\u0308ẍ\ty\u0300ỳ\ty\u0301ý\ty\u0302ŷ\ty\u0303ỹ\ty\u0304ȳ\ty\u0307ẏ\ty\u0308ÿ\ty\u0309ỷ",
   "y\u030aẙ\ty\u0323ỵ\tz\u0301ź\tz\u0302ẑ\tz\u0307ż\tz\u030cž\tz\u0323ẓ\tz\u0331ẕ\t¨\u0300῭",
   "¨\u0301΅\t¨\u0342῁\tÂ\u0300Ầ\tÂ\u0301Ấ\tÂ\u0303Ẫ\tÂ\u0309Ẩ\tÄ\u0304Ǟ\tÅ\u0301Ǻ\tÆ\u0301Ǽ",
   "Æ\u0304Ǣ\tÇ\u0301Ḉ\tÊ\u0300Ề\tÊ\u0301Ế\tÊ\u0303Ễ\tÊ\u0309Ể\tÏ\u0301Ḯ\tÔ\u0300Ồ\tÔ\u0301Ố",
   "Ô\u0303Ỗ\tÔ\u0309Ổ\tÕ\u0301Ṍ\tÕ\u0304Ȭ\tÕ\u0308Ṏ\tÖ\u0304Ȫ\tØ\u0301Ǿ\tÜ\u0300Ǜ\tÜ\u0301Ǘ",
   "Ü\u0304Ǖ\tÜ\u030cǙ\tâ\u0300ầ\tâ\u0301ấ\tâ\u0303ẫ\tâ\u0309ẩ\tä\u0304ǟ\tå\u0301ǻ\tæ\u0301ǽ",
   "æ\u0304ǣ\tç\u0301ḉ\tê\u0300ề\tê\u0301ế\tê\u0303ễ\tê\u0309ể\tï\u0301ḯ\tô\u0300ồ\tô\u0301ố",
   "ô\u0303ỗ\tô\u0309ổ\tõ\u0301ṍ\tõ\u0304ȭ\tõ\u0308ṏ\tö\u0304ȫ\tø\u0301ǿ\tü\u0300ǜ\tü\u0301ǘ",
   "ü\u0304ǖ\tü\u030cǚ\tĂ\u0300Ằ\tĂ\u0301Ắ\tĂ\u0303Ẵ\tĂ\u0309Ẳ\tă\u0300ằ\tă\u0301ắ\tă\u0303ẵ",
   "ă\u0309ẳ\tĒ\u0300Ḕ\tĒ\u0301Ḗ\tē\u0300ḕ\tē\u0301ḗ\tŌ\u0300Ṑ\tŌ\u0301Ṓ\tō\u0300ṑ\tō\u0301ṓ",
   "Ś\u0307Ṥ\tś\u0307ṥ\tŠ\u0307Ṧ\tš\u0307ṧ\tŨ\u0301Ṹ\tũ\u0301ṹ\tŪ\u0308Ṻ\tū\u0308ṻ\tſ\u0307ẛ",
   "Ơ\u0300Ờ\tƠ\u0301Ớ\tƠ\u0303Ỡ\tƠ\u0309Ở\tƠ\u0323Ợ\tơ\u0300ờ\tơ\u0301ớ\tơ\u0303ỡ\tơ\u0309ở",
   "ơ\u0323ợ\tƯ\u0300Ừ\tƯ\u0301Ứ\tƯ\u0303Ữ\tƯ\u0309Ử\tƯ\u0323Ự\tư\u0300ừ\tư\u0301ứ\tư\u0303ữ",
   "ư\u0309ử\tư\u0323ự\tƷ\u030cǮ\tǪ\u0304Ǭ\tǫ\u0304ǭ\tȦ\u0304Ǡ\tȧ\u0304ǡ\tȨ\u0306Ḝ\tȩ\u0306ḝ",
   "Ȯ\u0304Ȱ\tȯ\u0304ȱ\tʒ\u030cǯ\tΑ\u0300Ὰ\tΑ\u0301Ά\tΑ\u0304Ᾱ\tΑ\u0306Ᾰ\tΑ\u0313Ἀ\tΑ\u0314Ἁ",
   "Α\u0345ᾼ\tΕ\u0300Ὲ\tΕ\u0301Έ\tΕ\u0313Ἐ\tΕ\u0314Ἑ\tΗ\u0300Ὴ\tΗ\u0301Ή\tΗ\u0313Ἠ\tΗ\u0314Ἡ",
   "Η\u0345ῌ\tΙ\u0300Ὶ\tΙ\u0301Ί\tΙ\u0304Ῑ\tΙ\u0306Ῐ\tΙ\u0308Ϊ\tΙ\u0313Ἰ\tΙ\u0314Ἱ\tΟ\u0300Ὸ",
   "Ο\u0301Ό\tΟ\u0313Ὀ\tΟ\u0314Ὁ\tΡ\u0314Ῥ\tΥ\u0300Ὺ\tΥ\u0301Ύ\tΥ\u0304Ῡ\tΥ\u0306Ῠ\tΥ\u0308Ϋ",
   "Υ\u0314Ὑ\tΩ\u0300Ὼ\tΩ\u0301Ώ\tΩ\u0313Ὠ\tΩ\u0314Ὡ\tΩ\u0345ῼ\tά\u0345ᾴ\tή\u0345ῄ\tα\u0300ὰ",
   "α\u0301ά\tα\u0304ᾱ\tα\u0306ᾰ\tα\u0313ἀ\tα\u0314ἁ\tα\u0342ᾶ\tα\u0345ᾳ\tε\u0300ὲ\tε\u0301έ",
   "ε\u0313ἐ\tε\u0314ἑ\tη\u0300ὴ\tη\u0301ή\tη\u0313ἠ\tη\u0314ἡ\tη\u0342ῆ\tη\u0345ῃ\tι\u0300ὶ",
   "ι\u0301ί\tι\u0304ῑ\tι\u0306ῐ\tι\u0308ϊ\tι\u0313ἰ\tι\u0314ἱ\tι\u0342ῖ\tο\u0300ὸ\tο\u0301ό",
   "ο\u0313ὀ\tο\u0314ὁ\tρ\u0313ῤ\tρ\u0314ῥ\tυ\u0300ὺ\tυ\u0301ύ\tυ\u0304ῡ\tυ\u0306ῠ\tυ\u0308ϋ",
   "υ\u0313ὐ\tυ\u0314ὑ\tυ\u0342ῦ\tω\u0300ὼ\tω\u0301ώ\tω\u0313ὠ\tω\u0314ὡ\tω\u0342ῶ\tω\u0345ῳ",
   "ϊ\u0300ῒ\tϊ\u0301ΐ\tϊ\u0342ῗ\tϋ\u0300ῢ\tϋ\u0301ΰ\tϋ\u0342ῧ\tώ\u0345ῴ\tϒ\u0301ϓ\tϒ\u0308ϔ",
   "І\u0308Ї\tА\u0306Ӑ\tА\u0308Ӓ\tГ\u0301Ѓ\tЕ\u0300Ѐ\tЕ\u0306Ӗ\tЕ\u0308Ё\tЖ\u0306Ӂ\tЖ\u0308Ӝ",
   "З\u0308Ӟ\tИ\u0300Ѝ\tИ\u0304Ӣ\tИ\u0306Й\tИ\u0308Ӥ\tК\u0301Ќ\tО\u0308Ӧ\tУ\u0304Ӯ\tУ\u0306Ў",
   "У\u0308Ӱ\tУ\u030bӲ\tЧ\u0308Ӵ\tЫ\u0308Ӹ\tЭ\u0308Ӭ\tа\u0306ӑ\tа\u0308ӓ\tг\u0301ѓ\tе\u0300ѐ",
   "е\u0306ӗ\tе\u0308ё\tж\u0306ӂ\tж\u0308ӝ\tз\u0308ӟ\tи\u0300ѝ\tи\u0304ӣ\tи\u0306й\tи\u0308ӥ",
   "к\u0301ќ\tо\u0308ӧ\tу\u0304ӯ\tу\u0306ў\tу\u0308ӱ\tу\u030bӳ\tч\u0308ӵ\tы\u0308ӹ\tэ\u0308ӭ",
   "і\u0308ї\tѴ\u030fѶ\tѵ\u030fѷ\tӘ\u0308Ӛ\tә\u0308ӛ\tӨ\u0308Ӫ\tө\u0308ӫ\t\u0627\u0653\u0622",
   "\u0627\u0654\u0623\t\u0627\u0655\u0625\t\u0648\u0654\u0624\t\u064a\u0654\u0626",
   "\u06c1\u0654\u06c2\t\u06d2\u0654\u06d3\t\u06d5\u0654\u06c0\tन\u093cऩ\tर\u093cऱ\tळ\u093cऴ",
   "\u09c7\u09be\u09cb\t\u09c7\u09d7\u09cc\t\u0b47\u0b3e\u0b4b\t\u0b47\u0b56\u0b48",
   "\u0b47\u0b57\u0b4c\tஒ\u0bd7ஔ\t\u0bc6\u0bbe\u0bca\t\u0bc6\u0bd7\u0bcc\t\u0bc7\u0bbe\u0bcb",
   "\u0c46\u0c56\u0c48\t\u0cbf\u0cd5\u0cc0\t\u0cc6\u0cc2\u0cca\t\u0cc6\u0cd5\u0cc7",
   "\u0cc6\u0cd6\u0cc8\t\u0cca\u0cd5\u0ccb\t\u0d46\u0d3e\u0d4a\t\u0d46\u0d57\u0d4c",
   "\u0d47\u0d3e\u0d4b\t\u0dd9\u0dca\u0dda\t\u0dd9\u0dcf\u0ddc\t\u0dd9\u0ddf\u0dde",
   "\u0ddc\u0dca\u0ddd\tဥ\u102eဦ\tᬅ\u1b35ᬆ\tᬇ\u1b35ᬈ\tᬉ\u1b35ᬊ\tᬋ\u1b35ᬌ\tᬍ\u1b35ᬎ\tᬑ\u1b35ᬒ",
   "\u1b3a\u1b35\u1b3b\t\u1b3c\u1b35\u1b3d\t\u1b3e\u1b35\u1b40\t\u1b3f\u1b35\u1b41",
   "\u1b42\u1b35\u1b43\tḶ\u0304Ḹ\tḷ\u0304ḹ\tṚ\u0304Ṝ\tṛ\u0304ṝ\tṢ\u0307Ṩ\tṣ\u0307ṩ\tẠ\u0302Ậ",
   "Ạ\u0306Ặ\tạ\u0302ậ\tạ\u0306ặ\tẸ\u0302Ệ\tẹ\u0302ệ\tỌ\u0302Ộ\tọ\u0302ộ\tἀ\u0300ἂ\tἀ\u0301ἄ",
   "ἀ\u0342ἆ\tἀ\u0345ᾀ\tἁ\u0300ἃ\tἁ\u0301ἅ\tἁ\u0342ἇ\tἁ\u0345ᾁ\tἂ\u0345ᾂ\tἃ\u0345ᾃ\tἄ\u0345ᾄ",
   "ἅ\u0345ᾅ\tἆ\u0345ᾆ\tἇ\u0345ᾇ\tἈ\u0300Ἂ\tἈ\u0301Ἄ\tἈ\u0342Ἆ\tἈ\u0345ᾈ\tἉ\u0300Ἃ\tἉ\u0301Ἅ",
   "Ἁ\u0342Ἇ\tἉ\u0345ᾉ\tἊ\u0345ᾊ\tἋ\u0345ᾋ\tἌ\u0345ᾌ\tἍ\u0345ᾍ\tἎ\u0345ᾎ\tἏ\u0345ᾏ\tἐ\u0300ἒ",
   "ἐ\u0301ἔ\tἑ\u0300ἓ\tἑ\u0301ἕ\tἘ\u0300Ἒ\tἘ\u0301Ἔ\tἙ\u0300Ἓ\tἙ\u0301Ἕ\tἠ\u0300ἢ\tἠ\u0301ἤ",
   "ἠ\u0342ἦ\tἠ\u0345ᾐ\tἡ\u0300ἣ\tἡ\u0301ἥ\tἡ\u0342ἧ\tἡ\u0345ᾑ\tἢ\u0345ᾒ\tἣ\u0345ᾓ\tἤ\u0345ᾔ",
   "ἥ\u0345ᾕ\tἦ\u0345ᾖ\tἧ\u0345ᾗ\tἨ\u0300Ἢ\tἨ\u0301Ἤ\tἨ\u0342Ἦ\tἨ\u0345ᾘ\tἩ\u0300Ἣ\tἩ\u0301Ἥ",
   "Ἡ\u0342Ἧ\tἩ\u0345ᾙ\tἪ\u0345ᾚ\tἫ\u0345ᾛ\tἬ\u0345ᾜ\tἭ\u0345ᾝ\tἮ\u0345ᾞ\tἯ\u0345ᾟ\tἰ\u0300ἲ",
   "ἰ\u0301ἴ\tἰ\u0342ἶ\tἱ\u0300ἳ\tἱ\u0301ἵ\tἱ\u0342ἷ\tἸ\u0300Ἲ\tἸ\u0301Ἴ\tἸ\u0342Ἶ\tἹ\u0300Ἳ",
   "Ἱ\u0301Ἵ\tἹ\u0342Ἷ\tὀ\u0300ὂ\tὀ\u0301ὄ\tὁ\u0300ὃ\tὁ\u0301ὅ\tὈ\u0300Ὂ\tὈ\u0301Ὄ\tὉ\u0300Ὃ",
   "Ὁ\u0301Ὅ\tὐ\u0300ὒ\tὐ\u0301ὔ\tὐ\u0342ὖ\tὑ\u0300ὓ\tὑ\u0301ὕ\tὑ\u0342ὗ\tὙ\u0300Ὓ\tὙ\u0301Ὕ",
   "Ὑ\u0342Ὗ\tὠ\u0300ὢ\tὠ\u0301ὤ\tὠ\u0342ὦ\tὠ\u0345ᾠ\tὡ\u0300ὣ\tὡ\u0301ὥ\tὡ\u0342ὧ\tὡ\u0345ᾡ",
   "ὢ\u0345ᾢ\tὣ\u0345ᾣ\tὤ\u0345ᾤ\tὥ\u0345ᾥ\tὦ\u0345ᾦ\tὧ\u0345ᾧ\tὨ\u0300Ὢ\tὨ\u0301Ὤ\tὨ\u0342Ὦ",
   "Ὠ\u0345ᾨ\tὩ\u0300Ὣ\tὩ\u0301Ὥ\tὩ\u0342Ὧ\tὩ\u0345ᾩ\tὪ\u0345ᾪ\tὫ\u0345ᾫ\tὬ\u0345ᾬ\tὭ\u0345ᾭ",
   "Ὦ\u0345ᾮ\tὯ\u0345ᾯ\tὰ\u0345ᾲ\tὴ\u0345ῂ\tὼ\u0345ῲ\tᾶ\u0345ᾷ\t᾿\u0300῍\t᾿\u0301῎\t᾿\u0342῏",
   "ῆ\u0345ῇ\tῶ\u0345ῷ\t῾\u0300῝\t῾\u0301῞\t῾\u0342῟\t←\u0338↚\t→\u0338↛\t↔\u0338↮\t⇐\u0338⇍",
   "⇒\u0338⇏\t⇔\u0338⇎\t∃\u0338∄\t∈\u0338∉\t∋\u0338∌\t∣\u0338∤\t∥\u0338∦\t∼\u0338≁\t≃\u0338≄",
   "≅\u0338≇\t≈\u0338≉\t≍\u0338≭\t≡\u0338≢\t≤\u0338≰\t≥\u0338≱\t≲\u0338≴\t≳\u0338≵\t≶\u0338≸",
   "≷\u0338≹\t≺\u0338⊀\t≻\u0338⊁\t≼\u0338⋠\t≽\u0338⋡\t⊂\u0338⊄\t⊃\u0338⊅\t⊆\u0338⊈\t⊇\u0338⊉",
   "⊑\u0338⋢\t⊒\u0338⋣\t⊢\u0338⊬\t⊨\u0338⊭\t⊩\u0338⊮\t⊫\u0338⊯\t⊲\u0338⋪\t⊳\u0338⋫\t⊴\u0338⋬",
   "⊵\u0338⋭\tう\u3099ゔ\tか\u3099が\tき\u3099ぎ\tく\u3099ぐ\tけ\u3099げ\tこ\u3099ご\tさ\u3099ざ\tし\u3099じ",
   "す\u3099ず\tせ\u3099ぜ\tそ\u3099ぞ\tた\u3099だ\tち\u3099ぢ\tつ\u3099づ\tて\u3099で\tと\u3099ど\tは\u3099ば",
   "は\u309aぱ\tひ\u3099び\tひ\u309aぴ\tふ\u3099ぶ\tふ\u309aぷ\tへ\u3099べ\tへ\u309aぺ\tほ\u3099ぼ\tほ\u309aぽ",
   "ゝ\u3099ゞ\tウ\u3099ヴ\tカ\u3099ガ\tキ\u3099ギ\tク\u3099グ\tケ\u3099ゲ\tコ\u3099ゴ\tサ\u3099ザ\tシ\u3099ジ",
   "ス\u3099ズ\tセ\u3099ゼ\tソ\u3099ゾ\tタ\u3099ダ\tチ\u3099ヂ\tツ\u3099ヅ\tテ\u3099デ\tト\u3099ド\tハ\u3099バ",
   "ハ\u309aパ\tヒ\u3099ビ\tヒ\u309aピ\tフ\u3099ブ\tフ\u309aプ\tヘ\u3099ベ\tヘ\u309aペ\tホ\u3099ボ\tホ\u309aポ",
   "ワ\u3099ヷ\tヰ\u3099ヸ\tヱ\u3099ヹ\tヲ\u3099ヺ\tヽ\u3099ヾ\t𑂚𑂚\t𑂜𑂜\t𑂫𑂫\t𑄮𑄮\t𑄯𑄯\t𑍋𑍋\t𑍌𑍌\t𑒼𑒼\t𑒻𑒻",
   "𑒾𑒾\t𑖺𑖺\t𑖻𑖻\t𑤸𑤸"]

/-- The characters that no name may hold. -/
def prohibited : Text.Ranges :=
  [(0x80, 0xA0), (0x340, 0x341), (0x6DD, 0x6DD), (0x70F, 0x70F), (0x1680, 0x1680),
   (0x180E, 0x180E), (0x2000, 0x200F), (0x2028, 0x202F), (0x205F, 0x2063), (0x206A, 0x206F),
   (0x2FF0, 0x2FFB), (0x3000, 0x3000), (0xE000, 0xF8FF), (0xFDD0, 0xFDEF), (0xFEFF, 0xFEFF),
   (0xFFF9, 0xFFFF), (0x1D173, 0x1D17A), (0x1FFFE, 0x1FFFF), (0x2FFFE, 0x2FFFF),
   (0x3FFFE, 0x3FFFF), (0x4FFFE, 0x4FFFF), (0x5FFFE, 0x5FFFF), (0x6FFFE, 0x6FFFF),
   (0x7FFFE, 0x7FFFF), (0x8FFFE, 0x8FFFF), (0x9FFFE, 0x9FFFF), (0xAFFFE, 0xAFFFF),
   (0xBFFFE, 0xBFFFF), (0xCFFFE, 0xCFFFF), (0xDFFFE, 0xDFFFF), (0xE0001, 0xE0001),
   (0xE0020, 0xE007F), (0xEFFFE, 0x10FFFF)]

/-- The letters that are written from right to left. -/
def rightToLeft : Text.Ranges :=
  [(0x5BE, 0x5BE), (0x5C0, 0x5C0), (0x5C3, 0x5C3), (0x5D0, 0x5EA), (0x5F0, 0x5F4),
   (0x61B, 0x61B), (0x61F, 0x61F), (0x621, 0x63A), (0x640, 0x64A), (0x66D, 0x66F),
   (0x671, 0x6D5), (0x6DD, 0x6DD), (0x6E5, 0x6E6), (0x6FA, 0x6FE), (0x700, 0x70D),
   (0x710, 0x710), (0x712, 0x72C), (0x780, 0x7A5), (0x7B1, 0x7B1), (0x200F, 0x200F),
   (0xFB1D, 0xFB1D), (0xFB1F, 0xFB28), (0xFB2A, 0xFB36), (0xFB38, 0xFB3C), (0xFB3E, 0xFB3E),
   (0xFB40, 0xFB41), (0xFB43, 0xFB44), (0xFB46, 0xFBB1), (0xFBD3, 0xFD3D), (0xFD50, 0xFD8F),
   (0xFD92, 0xFDC7), (0xFDF0, 0xFDFC), (0xFE70, 0xFE74), (0xFE76, 0xFEFC)]

/-- The letters that are written from left to right. -/
def leftToRight : Text.Ranges :=
  [(0x41, 0x5A), (0x61, 0x7A), (0xAA, 0xAA), (0xB5, 0xB5), (0xBA, 0xBA), (0xC0, 0xD6),
   (0xD8, 0xF6), (0xF8, 0x220), (0x222, 0x233), (0x250, 0x2AD), (0x2B0, 0x2B8), (0x2BB, 0x2C1),
   (0x2D0, 0x2D1), (0x2E0, 0x2E4), (0x2EE, 0x2EE), (0x37A, 0x37A), (0x386, 0x386),
   (0x388, 0x38A), (0x38C, 0x38C), (0x38E, 0x3A1), (0x3A3, 0x3CE), (0x3D0, 0x3F5),
   (0x400, 0x482), (0x48A, 0x4CE), (0x4D0, 0x4F5), (0x4F8, 0x4F9), (0x500, 0x50F),
   (0x531, 0x556), (0x559, 0x55F), (0x561, 0x587), (0x589, 0x589), (0x903, 0x903),
   (0x905, 0x939), (0x93D, 0x940), (0x949, 0x94C), (0x950, 0x950), (0x958, 0x961),
   (0x964, 0x970), (0x982, 0x983), (0x985, 0x98C), (0x98F, 0x990), (0x993, 0x9A8),
   (0x9AA, 0x9B0), (0x9B2, 0x9B2), (0x9B6, 0x9B9), (0x9BE, 0x9C0), (0x9C7, 0x9C8),
   (0x9CB, 0x9CC), (0x9D7, 0x9D7), (0x9DC, 0x9DD), (0x9DF, 0x9E1), (0x9E6, 0x9F1),
   (0x9F4, 0x9FA), (0xA05, 0xA0A), (0xA0F, 0xA10), (0xA13, 0xA28), (0xA2A, 0xA30),
   (0xA32, 0xA33), (0xA35, 0xA36), (0xA38, 0xA39), (0xA3E, 0xA40), (0xA59, 0xA5C),
   (0xA5E, 0xA5E), (0xA66, 0xA6F), (0xA72, 0xA74), (0xA83, 0xA83), (0xA85, 0xA8B),
   (0xA8D, 0xA8D), (0xA8F, 0xA91), (0xA93, 0xAA8), (0xAAA, 0xAB0), (0xAB2, 0xAB3),
   (0xAB5, 0xAB9), (0xABD, 0xAC0), (0xAC9, 0xAC9), (0xACB, 0xACC), (0xAD0, 0xAD0),
   (0xAE0, 0xAE0), (0xAE6, 0xAEF), (0xB02, 0xB03), (0xB05, 0xB0C), (0xB0F, 0xB10),
   (0xB13, 0xB28), (0xB2A, 0xB30), (0xB32, 0xB33), (0xB36, 0xB39), (0xB3D, 0xB3E),
   (0xB40, 0xB40), (0xB47, 0xB48), (0xB4B, 0xB4C), (0xB57, 0xB57), (0xB5C, 0xB5D),
   (0xB5F, 0xB61), (0xB66, 0xB70), (0xB83, 0xB83), (0xB85, 0xB8A), (0xB8E, 0xB90),
   (0xB92, 0xB95), (0xB99, 0xB9A), (0xB9C, 0xB9C), (0xB9E, 0xB9F), (0xBA3, 0xBA4),
   (0xBA8, 0xBAA), (0xBAE, 0xBB5), (0xBB7, 0xBB9), (0xBBE, 0xBBF), (0xBC1, 0xBC2),
   (0xBC6, 0xBC8), (0xBCA, 0xBCC), (0xBD7, 0xBD7), (0xBE7, 0xBF2), (0xC01, 0xC03),
   (0xC05, 0xC0C), (0xC0E, 0xC10), (0xC12, 0xC28), (0xC2A, 0xC33), (0xC35, 0xC39),
   (0xC41, 0xC44), (0xC60, 0xC61), (0xC66, 0xC6F), (0xC82, 0xC83), (0xC85, 0xC8C),
   (0xC8E, 0xC90), (0xC92, 0xCA8), (0xCAA, 0xCB3), (0xCB5, 0xCB9), (0xCBE, 0xCBE),
   (0xCC0, 0xCC4), (0xCC7, 0xCC8), (0xCCA, 0xCCB), (0xCD5, 0xCD6), (0xCDE, 0xCDE),
   (0xCE0, 0xCE1), (0xCE6, 0xCEF), (0xD02, 0xD03), (0xD05, 0xD0C), (0xD0E, 0xD10),
   (0xD12, 0xD28), (0xD2A, 0xD39), (0xD3E, 0xD40), (0xD46, 0xD48), (0xD4A, 0xD4C),
   (0xD57, 0xD57), (0xD60, 0xD61), (0xD66, 0xD6F), (0xD82, 0xD83), (0xD85, 0xD96),
   (0xD9A, 0xDB1), (0xDB3, 0xDBB), (0xDBD, 0xDBD), (0xDC0, 0xDC6), (0xDCF, 0xDD1),
   (0xDD8, 0xDDF), (0xDF2, 0xDF4), (0xE01, 0xE30), (0xE32, 0xE33), (0xE40, 0xE46),
   (0xE4F, 0xE5B), (0xE81, 0xE82), (0xE84, 0xE84), (0xE87, 0xE88), (0xE8A, 0xE8A),
   (0xE8D, 0xE8D), (0xE94, 0xE97), (0xE99, 0xE9F), (0xEA1, 0xEA3), (0xEA5, 0xEA5),
   (0xEA7, 0xEA7), (0xEAA, 0xEAB), (0xEAD, 0xEB0), (0xEB2, 0xEB3), (0xEBD, 0xEBD),
   (0xEC0, 0xEC4), (0xEC6, 0xEC6), (0xED0, 0xED9), (0xEDC, 0xEDD), (0xF00, 0xF17),
   (0xF1A, 0xF34), (0xF36, 0xF36), (0xF38, 0xF38), (0xF3E, 0xF47), (0xF49, 0xF6A),
   (0xF7F, 0xF7F), (0xF85, 0xF85), (0xF88, 0xF8B), (0xFBE, 0xFC5), (0xFC7, 0xFCC),
   (0xFCF, 0xFCF), (0x1000, 0x1021), (0x1023, 0x1027), (0x1029, 0x102A), (0x102C, 0x102C),
   (0x1031, 0x1031), (0x1038, 0x1038), (0x1040, 0x1057), (0x10A0, 0x10C5), (0x10D0, 0x10F8),
   (0x10FB, 0x10FB), (0x1100, 0x1159), (0x115F, 0x11A2), (0x11A8, 0x11F9), (0x1200, 0x1206),
   (0x1208, 0x1246), (0x1248, 0x1248), (0x124A, 0x124D), (0x1250, 0x1256), (0x1258, 0x1258),
   (0x125A, 0x125D), (0x1260, 0x1286), (0x1288, 0x1288), (0x128A, 0x128D), (0x1290, 0x12AE),
   (0x12B0, 0x12B0), (0x12B2, 0x12B5), (0x12B8, 0x12BE), (0x12C0, 0x12C0), (0x12C2, 0x12C5),
   (0x12C8, 0x12CE), (0x12D0, 0x12D6), (0x12D8, 0x12EE), (0x12F0, 0x130E), (0x1310, 0x1310),
   (0x1312, 0x1315), (0x1318, 0x131E), (0x1320, 0x1346), (0x1348, 0x135A), (0x1361, 0x137C),
   (0x13A0, 0x13F4), (0x1401, 0x1676), (0x1681, 0x169A), (0x16A0, 0x16F0), (0x1700, 0x170C),
   (0x170E, 0x1711), (0x1720, 0x1731), (0x1735, 0x1736), (0x1740, 0x1751), (0x1760, 0x176C),
   (0x176E, 0x1770), (0x1780, 0x17B6), (0x17BE, 0x17C5), (0x17C7, 0x17C8), (0x17D4, 0x17DA),
   (0x17DC, 0x17DC), (0x17E0, 0x17E9), (0x1810, 0x1819), (0x1820, 0x1877), (0x1880, 0x18A8),
   (0x1E00, 0x1E9B), (0x1EA0, 0x1EF9), (0x1F00, 0x1F15), (0x1F18, 0x1F1D), (0x1F20, 0x1F45),
   (0x1F48, 0x1F4D), (0x1F50, 0x1F57), (0x1F59, 0x1F59), (0x1F5B, 0x1F5B), (0x1F5D, 0x1F5D),
   (0x1F5F, 0x1F7D), (0x1F80, 0x1FB4), (0x1FB6, 0x1FBC), (0x1FBE, 0x1FBE), (0x1FC2, 0x1FC4),
   (0x1FC6, 0x1FCC), (0x1FD0, 0x1FD3), (0x1FD6, 0x1FDB), (0x1FE0, 0x1FEC), (0x1FF2, 0x1FF4),
   (0x1FF6, 0x1FFC), (0x200E, 0x200E), (0x2071, 0x2071), (0x207F, 0x207F), (0x2102, 0x2102),
   (0x2107, 0x2107), (0x210A, 0x2113), (0x2115, 0x2115), (0x2119, 0x211D), (0x2124, 0x2124),
   (0x2126, 0x2126), (0x2128, 0x2128), (0x212A, 0x212D), (0x212F, 0x2131), (0x2133, 0x2139),
   (0x213D, 0x213F), (0x2145, 0x2149), (0x2160, 0x2183), (0x2336, 0x237A), (0x2395, 0x2395),
   (0x249C, 0x24E9), (0x3005, 0x3007), (0x3021, 0x3029), (0x3031, 0x3035), (0x3038, 0x303C),
   (0x3041, 0x3096), (0x309D, 0x309F), (0x30A1, 0x30FA), (0x30FC, 0x30FF), (0x3105, 0x312C),
   (0x3131, 0x318E), (0x3190, 0x31B7), (0x31F0, 0x321C), (0x3220, 0x3243), (0x3260, 0x327B),
   (0x327F, 0x32B0), (0x32C0, 0x32CB), (0x32D0, 0x32FE), (0x3300, 0x3376), (0x337B, 0x33DD),
   (0x33E0, 0x33FE), (0x3400, 0x4DB5), (0x4E00, 0x9FA5), (0xA000, 0xA48C), (0xAC00, 0xD7A3),
   (0xE000, 0xFA2D), (0xFA30, 0xFA6A), (0xFB00, 0xFB06), (0xFB13, 0xFB17), (0xFF21, 0xFF3A),
   (0xFF41, 0xFF5A), (0xFF66, 0xFFBE), (0xFFC2, 0xFFC7), (0xFFCA, 0xFFCF), (0xFFD2, 0xFFD7),
   (0xFFDA, 0xFFDC), (0x10300, 0x1031E), (0x10320, 0x10323), (0x10330, 0x1034A),
   (0x10400, 0x10425), (0x10428, 0x1044D), (0x1D000, 0x1D0F5), (0x1D100, 0x1D126),
   (0x1D12A, 0x1D166), (0x1D16A, 0x1D172), (0x1D183, 0x1D184), (0x1D18C, 0x1D1A9),
   (0x1D1AE, 0x1D1DD), (0x1D400, 0x1D454), (0x1D456, 0x1D49C), (0x1D49E, 0x1D49F),
   (0x1D4A2, 0x1D4A2), (0x1D4A5, 0x1D4A6), (0x1D4A9, 0x1D4AC), (0x1D4AE, 0x1D4B9),
   (0x1D4BB, 0x1D4BB), (0x1D4BD, 0x1D4C0), (0x1D4C2, 0x1D4C3), (0x1D4C5, 0x1D505),
   (0x1D507, 0x1D50A), (0x1D50D, 0x1D514), (0x1D516, 0x1D51C), (0x1D51E, 0x1D539),
   (0x1D53B, 0x1D53E), (0x1D540, 0x1D544), (0x1D546, 0x1D546), (0x1D54A, 0x1D550),
   (0x1D552, 0x1D6A3), (0x1D6A8, 0x1D7C9), (0x20000, 0x2A6D6), (0x2F800, 0x2FA1D),
   (0xF0000, 0xFFFFD), (0x100000, 0x10FFFD)]

end Stencil.Codec.Nameprep
