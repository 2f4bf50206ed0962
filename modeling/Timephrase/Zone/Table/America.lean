import Timephrase.Zone.Basic

/-!
# Time zones of the Americas

The offset changes of each zone, in seconds after the start of 1800, with the seconds east or west
that hold from then on.  Rules in force are written out to the end of 2099.
-/

namespace Timephrase.Zone

open ZoneChange (east west)

/-- The zone America/Anchorage. -/
def anchorage : Zone where
  name := "America/Anchorage"
  first := 50424
  changes := [
    west 2139438673 35976, west 3175711176 36000, west 4484462400 32400, west 4599284400 36000,
    west 5343192000 32400, west 5358913200 36000, west 5374641600 32400, west 5390362800 36000,
    west 5406091200 32400, west 5422417200 36000, west 5438145600 32400, west 5453866800 36000,
    west 5469595200 32400, west 5485316400 36000, west 5491368000 32400, west 5516766000 36000,
    west 5527051200 32400, west 5548215600 36000, west 5563944000 32400, west 5580270000 36000,
    west 5595393600 32400, west 5611719600 36000, west 5627448000 32400, west 5643169200 36000,
    west 5658897600 32400, west 5674618800 36000, west 5690347200 32400, west 5706068400 36000,
    west 5721796800 32400, west 5737518000 36000, west 5753246400 32400, west 5769572400 36000,
    west 5784696000 32400, west 5816746800 28800, west 5832468000 32400, west 5848196400 28800,
    west 5863917600 32400, west 5879646000 28800, west 5895367200 32400, west 5909281200 28800,
    west 5926816800 32400, west 5940730800 28800, west 5958871200 32400, west 5972180400 28800,
    west 5990320800 32400, west 6003630000 28800, west 6021770400 32400, west 6035684400 28800,
    west 6053220000 32400, west 6067134000 28800, west 6084669600 32400, west 6098583600 28800,
    west 6116724000 32400, west 6130033200 28800, west 6148173600 32400, west 6161482800 28800,
    west 6179623200 32400, west 6193537200 28800, west 6211072800 32400, west 6224986800 28800,
    west 6242522400 32400, west 6256436400 28800, west 6273972000 32400, west 6287886000 28800,
    west 6306026400 32400, west 6319335600 28800, west 6337476000 32400, west 6350785200 28800,
    west 6368925600 32400, west 6382839600 28800, west 6400375200 32400, west 6414289200 28800,
    west 6431824800 32400, west 6445738800 28800, west 6463879200 32400, west 6477188400 28800,
    west 6495328800 32400, west 6508638000 28800, west 6526778400 32400, west 6538273200 28800,
    west 6558832800 32400, west 6569722800 28800, west 6590282400 32400, west 6601172400 28800,
    west 6621732000 32400, west 6633226800 28800, west 6653786400 32400, west 6664676400 28800,
    west 6685236000 32400, west 6696126000 28800, west 6716685600 32400, west 6727575600 28800,
    west 6748135200 32400, west 6759025200 28800, west 6779584800 32400, west 6790474800 28800,
    west 6811034400 32400, west 6822529200 28800, west 6843088800 32400, west 6853978800 28800,
    west 6874538400 32400, west 6885428400 28800, west 6905988000 32400, west 6916878000 28800,
    west 6937437600 32400, west 6948327600 28800, west 6968887200 32400, west 6980382000 28800,
    west 7000941600 32400, west 7011831600 28800, west 7032391200 32400, west 7043281200 28800,
    west 7063840800 32400, west 7074730800 28800, west 7095290400 32400, west 7106180400 28800,
    west 7126740000 32400, west 7137630000 28800, west 7158189600 32400, west 7169684400 28800,
    west 7190244000 32400, west 7201134000 28800, west 7221693600 32400, west 7232583600 28800,
    west 7253143200 32400, west 7264033200 28800, west 7284592800 32400, west 7295482800 28800,
    west 7316042400 32400, west 7327537200 28800, west 7348096800 32400, west 7358986800 28800,
    west 7379546400 32400, west 7390436400 28800, west 7410996000 32400, west 7421886000 28800,
    west 7442445600 32400, west 7453335600 28800, west 7473895200 32400, west 7484785200 28800,
    west 7505344800 32400, west 7516839600 28800, west 7537399200 32400, west 7548289200 28800,
    west 7568848800 32400, west 7579738800 28800, west 7600298400 32400, west 7611188400 28800,
    west 7631748000 32400, west 7642638000 28800, west 7663197600 32400, west 7674087600 28800,
    west 7694647200 32400, west 7706142000 28800, west 7726701600 32400, west 7737591600 28800,
    west 7758151200 32400, west 7769041200 28800, west 7789600800 32400, west 7800490800 28800,
    west 7821050400 32400, west 7831940400 28800, west 7852500000 32400, west 7863994800 28800,
    west 7884554400 32400, west 7895444400 28800, west 7916004000 32400, west 7926894000 28800,
    west 7947453600 32400, west 7958343600 28800, west 7978903200 32400, west 7989793200 28800,
    west 8010352800 32400, west 8021242800 28800, west 8041802400 32400, west 8053297200 28800,
    west 8073856800 32400, west 8084746800 28800, west 8105306400 32400, west 8116196400 28800,
    west 8136756000 32400, west 8147646000 28800, west 8168205600 32400, west 8179095600 28800,
    west 8199655200 32400, west 8211150000 28800, west 8231709600 32400, west 8242599600 28800,
    west 8263159200 32400, west 8274049200 28800, west 8294608800 32400, west 8305498800 28800,
    west 8326058400 32400, west 8336948400 28800, west 8357508000 32400, west 8368398000 28800,
    west 8388957600 32400, west 8400452400 28800, west 8421012000 32400, west 8431902000 28800,
    west 8452461600 32400, west 8463351600 28800, west 8483911200 32400, west 8494801200 28800,
    west 8515360800 32400, west 8526250800 28800, west 8546810400 32400, west 8557700400 28800,
    west 8578260000 32400, west 8589754800 28800, west 8610314400 32400, west 8621204400 28800,
    west 8641764000 32400, west 8652654000 28800, west 8673213600 32400, west 8684103600 28800,
    west 8704663200 32400, west 8715553200 28800, west 8736112800 32400, west 8747607600 28800,
    west 8768167200 32400, west 8779057200 28800, west 8799616800 32400, west 8810506800 28800,
    west 8831066400 32400, west 8841956400 28800, west 8862516000 32400, west 8873406000 28800,
    west 8893965600 32400, west 8904855600 28800, west 8925415200 32400, west 8936910000 28800,
    west 8957469600 32400, west 8968359600 28800, west 8988919200 32400, west 8999809200 28800,
    west 9020368800 32400, west 9031258800 28800, west 9051818400 32400, west 9062708400 28800,
    west 9083268000 32400, west 9094762800 28800, west 9115322400 32400, west 9126212400 28800,
    west 9146772000 32400, west 9157662000 28800, west 9178221600 32400, west 9189111600 28800,
    west 9209671200 32400, west 9220561200 28800, west 9241120800 32400, west 9252010800 28800,
    west 9272570400 32400, west 9284065200 28800, west 9304624800 32400, west 9315514800 28800,
    west 9336074400 32400, west 9346964400 28800, west 9367524000 32400, west 9378414000 28800,
    west 9398973600 32400, west 9409863600 28800, west 9430423200 32400, west 9441313200 28800,
    west 9461872800 32400]

/-- The zone America/Argentina/Buenos_Aires. -/
def buenosAires : Zone where
  name := "America/Argentina/Buenos_Aires"
  first := -14028
  changes := [
    west 2992564428 15408, west 3797209008 14400, west 4131230400 10800, west 4141681200 14400,
    west 4158705600 10800, west 4170625200 14400, west 4191796800 10800, west 4202161200 14400,
    west 4223332800 10800, west 4233697200 14400, west 4254868800 10800, west 4265233200 14400,
    west 4286404800 10800, west 4296855600 14400, west 4318027200 10800, west 4328391600 14400,
    west 4349563200 10800, west 4359927600 14400, west 4381099200 10800, west 4391463600 14400,
    west 4412635200 10800, west 4423086000 14400, west 4433630400 10800, west 4463780400 14400,
    west 4474324800 10800, west 4530913200 14400, west 4537396800 10800, west 4612388400 14400,
    west 4630881600 10800, west 5167335600 14400, west 5173819200 10800, west 5180468400 14400,
    west 5200171200 10800, west 5212004400 14400, west 5231707200 10800, west 5243540400 14400,
    west 5263243200 10800, west 5277841200 14400, west 5293569600 10800, west 5309895600 14400,
    west 5325624000 10800, west 5341345200 14400, west 5357073600 10800, west 5492804400 7200,
    west 5501268000 10800, west 5961610800 7200, west 5969728800 10800, west 5989086000 7200,
    west 6001178400 10800, west 6021140400 7200, west 6032628000 10800, west 6052590000 7200,
    west 6064077600 10800, west 6084039600 7200, west 6096132000 10800, west 6563646000 7200,
    west 6570295200 10800, west 6589047600 7200, west 6601744800 10800]

/-- The zone America/Bogota. -/
def bogota : Zone where
  name := "America/Bogota"
  first := -17776
  changes := [
    west 3625620976 18000, west 6069531600 14400, west 6093720000 18000]

/-- The zone America/Chicago. -/
def chicago : Zone where
  name := "America/Chicago"
  first := -21036
  changes := [
    west 2647015200 21600, west 3731385600 18000, west 3749526000 21600, west 3762835200 18000,
    west 3780975600 21600, west 3800937600 18000, west 3813030000 21600, west 3825734400 18000,
    west 3844479600 21600, west 3860208000 18000, west 3872905200 21600, west 3891657600 18000,
    west 3904959600 21600, west 3923107200 18000, west 3936409200 21600, west 3954556800 18000,
    west 3967858800 21600, west 3986006400 18000, west 3999308400 21600, west 4017456000 18000,
    west 4030758000 21600, west 4049510400 18000, west 4062812400 21600, west 4080960000 18000,
    west 4094262000 21600, west 4112409600 18000, west 4125711600 21600, west 4143859200 18000,
    west 4157161200 21600, west 4175308800 18000, west 4188610800 21600, west 4207363200 18000,
    west 4220060400 21600, west 4238812800 18000, west 4252114800 21600, west 4270262400 18000,
    west 4283564400 21600, west 4296873600 18000, west 4319247600 21600, west 4333161600 18000,
    west 4346463600 21600, west 4364611200 18000, west 4377913200 21600, west 4396665600 18000,
    west 4409362800 21600, west 4428115200 18000, west 4441417200 21600, west 4459564800 18000,
    west 4472866800 21600, west 4484448000 18000, west 4599270000 21600, west 4617417600 18000,
    west 4630719600 21600, west 4648867200 18000, west 4662169200 21600, west 4680316800 18000,
    west 4693618800 21600, west 4711766400 18000, west 4725068400 21600, west 4743820800 18000,
    west 4756518000 21600, west 4775270400 18000, west 4788572400 21600, west 4806720000 18000,
    west 4820022000 21600, west 4838169600 18000, west 4851471600 21600, west 4869619200 18000,
    west 4882921200 21600, west 4901068800 18000, west 4917394800 21600, west 4933123200 18000,
    west 4948844400 21600, west 4964572800 18000, west 4980294000 21600, west 4996022400 18000,
    west 5011743600 21600, west 5027472000 18000, west 5043193200 21600, west 5058921600 18000,
    west 5075247600 21600, west 5090976000 18000, west 5106697200 21600, west 5122425600 18000,
    west 5138146800 21600, west 5153875200 18000, west 5169596400 21600, west 5185324800 18000,
    west 5201046000 21600, west 5216774400 18000, west 5233100400 21600, west 5248224000 18000,
    west 5264550000 21600, west 5280278400 18000, west 5295999600 21600, west 5311728000 18000,
    west 5327449200 21600, west 5343177600 18000, west 5358898800 21600, west 5374627200 18000,
    west 5390348400 21600, west 5406076800 18000, west 5422402800 21600, west 5438131200 18000,
    west 5453852400 21600, west 5469580800 18000, west 5485302000 21600, west 5491353600 18000,
    west 5516751600 21600, west 5527036800 18000, west 5548201200 21600, west 5563929600 18000,
    west 5580255600 21600, west 5595379200 18000, west 5611705200 21600, west 5627433600 18000,
    west 5643154800 21600, west 5658883200 18000, west 5674604400 21600, west 5690332800 18000,
    west 5706054000 21600, west 5721782400 18000, west 5737503600 21600, west 5753232000 18000,
    west 5769558000 21600, west 5784681600 18000, west 5801007600 21600, west 5816736000 18000,
    west 5832457200 21600, west 5848185600 18000, west 5863906800 21600, west 5879635200 18000,
    west 5895356400 21600, west 5909270400 18000, west 5926806000 21600, west 5940720000 18000,
    west 5958860400 21600, west 5972169600 18000, west 5990310000 21600, west 6003619200 18000,
    west 6021759600 21600, west 6035673600 18000, west 6053209200 21600, west 6067123200 18000,
    west 6084658800 21600, west 6098572800 18000, west 6116713200 21600, west 6130022400 18000,
    west 6148162800 21600, west 6161472000 18000, west 6179612400 21600, west 6193526400 18000,
    west 6211062000 21600, west 6224976000 18000, west 6242511600 21600, west 6256425600 18000,
    west 6273961200 21600, west 6287875200 18000, west 6306015600 21600, west 6319324800 18000,
    west 6337465200 21600, west 6350774400 18000, west 6368914800 21600, west 6382828800 18000,
    west 6400364400 21600, west 6414278400 18000, west 6431814000 21600, west 6445728000 18000,
    west 6463868400 21600, west 6477177600 18000, west 6495318000 21600, west 6508627200 18000,
    west 6526767600 21600, west 6538262400 18000, west 6558822000 21600, west 6569712000 18000,
    west 6590271600 21600, west 6601161600 18000, west 6621721200 21600, west 6633216000 18000,
    west 6653775600 21600, west 6664665600 18000, west 6685225200 21600, west 6696115200 18000,
    west 6716674800 21600, west 6727564800 18000, west 6748124400 21600, west 6759014400 18000,
    west 6779574000 21600, west 6790464000 18000, west 6811023600 21600, west 6822518400 18000,
    west 6843078000 21600, west 6853968000 18000, west 6874527600 21600, west 6885417600 18000,
    west 6905977200 21600, west 6916867200 18000, west 6937426800 21600, west 6948316800 18000,
    west 6968876400 21600, west 6980371200 18000, west 7000930800 21600, west 7011820800 18000,
    west 7032380400 21600, west 7043270400 18000, west 7063830000 21600, west 7074720000 18000,
    west 7095279600 21600, west 7106169600 18000, west 7126729200 21600, west 7137619200 18000,
    west 7158178800 21600, west 7169673600 18000, west 7190233200 21600, west 7201123200 18000,
    west 7221682800 21600, west 7232572800 18000, west 7253132400 21600, west 7264022400 18000,
    west 7284582000 21600, west 7295472000 18000, west 7316031600 21600, west 7327526400 18000,
    west 7348086000 21600, west 7358976000 18000, west 7379535600 21600, west 7390425600 18000,
    west 7410985200 21600, west 7421875200 18000, west 7442434800 21600, west 7453324800 18000,
    west 7473884400 21600, west 7484774400 18000, west 7505334000 21600, west 7516828800 18000,
    west 7537388400 21600, west 7548278400 18000, west 7568838000 21600, west 7579728000 18000,
    west 7600287600 21600, west 7611177600 18000, west 7631737200 21600, west 7642627200 18000,
    west 7663186800 21600, west 7674076800 18000, west 7694636400 21600, west 7706131200 18000,
    west 7726690800 21600, west 7737580800 18000, west 7758140400 21600, west 7769030400 18000,
    west 7789590000 21600, west 7800480000 18000, west 7821039600 21600, west 7831929600 18000,
    west 7852489200 21600, west 7863984000 18000, west 7884543600 21600, west 7895433600 18000,
    west 7915993200 21600, west 7926883200 18000, west 7947442800 21600, west 7958332800 18000,
    west 7978892400 21600, west 7989782400 18000, west 8010342000 21600, west 8021232000 18000,
    west 8041791600 21600, west 8053286400 18000, west 8073846000 21600, west 8084736000 18000,
    west 8105295600 21600, west 8116185600 18000, west 8136745200 21600, west 8147635200 18000,
    west 8168194800 21600, west 8179084800 18000, west 8199644400 21600, west 8211139200 18000,
    west 8231698800 21600, west 8242588800 18000, west 8263148400 21600, west 8274038400 18000,
    west 8294598000 21600, west 8305488000 18000, west 8326047600 21600, west 8336937600 18000,
    west 8357497200 21600, west 8368387200 18000, west 8388946800 21600, west 8400441600 18000,
    west 8421001200 21600, west 8431891200 18000, west 8452450800 21600, west 8463340800 18000,
    west 8483900400 21600, west 8494790400 18000, west 8515350000 21600, west 8526240000 18000,
    west 8546799600 21600, west 8557689600 18000, west 8578249200 21600, west 8589744000 18000,
    west 8610303600 21600, west 8621193600 18000, west 8641753200 21600, west 8652643200 18000,
    west 8673202800 21600, west 8684092800 18000, west 8704652400 21600, west 8715542400 18000,
    west 8736102000 21600, west 8747596800 18000, west 8768156400 21600, west 8779046400 18000,
    west 8799606000 21600, west 8810496000 18000, west 8831055600 21600, west 8841945600 18000,
    west 8862505200 21600, west 8873395200 18000, west 8893954800 21600, west 8904844800 18000,
    west 8925404400 21600, west 8936899200 18000, west 8957458800 21600, west 8968348800 18000,
    west 8988908400 21600, west 8999798400 18000, west 9020358000 21600, west 9031248000 18000,
    west 9051807600 21600, west 9062697600 18000, west 9083257200 21600, west 9094752000 18000,
    west 9115311600 21600, west 9126201600 18000, west 9146761200 21600, west 9157651200 18000,
    west 9178210800 21600, west 9189100800 18000, west 9209660400 21600, west 9220550400 18000,
    west 9241110000 21600, west 9252000000 18000, west 9272559600 21600, west 9284054400 18000,
    west 9304614000 21600, west 9315504000 18000, west 9336063600 21600, west 9346953600 18000,
    west 9367513200 21600, west 9378403200 18000, west 9398962800 21600, west 9409852800 18000,
    west 9430412400 21600, west 9441302400 18000, west 9461862000 21600]

/-- The zone America/Denver. -/
def denver : Zone where
  name := "America/Denver"
  first := -25196
  changes := [
    west 2647018800 25200, west 3731389200 21600, west 3749529600 25200, west 3762838800 21600,
    west 3780979200 25200, west 3794288400 21600, west 3813033600 25200, west 3825738000 21600,
    west 3830572800 25200, west 4484451600 21600, west 4599273600 25200, west 5216778000 21600,
    west 5233104000 25200, west 5248227600 21600, west 5264553600 25200, west 5280282000 21600,
    west 5296003200 25200, west 5311731600 21600, west 5327452800 25200, west 5343181200 21600,
    west 5358902400 25200, west 5374630800 21600, west 5390352000 25200, west 5406080400 21600,
    west 5422406400 25200, west 5438134800 21600, west 5453856000 25200, west 5469584400 21600,
    west 5485305600 25200, west 5491357200 21600, west 5516755200 25200, west 5527040400 21600,
    west 5548204800 25200, west 5563933200 21600, west 5580259200 25200, west 5595382800 21600,
    west 5611708800 25200, west 5627437200 21600, west 5643158400 25200, west 5658886800 21600,
    west 5674608000 25200, west 5690336400 21600, west 5706057600 25200, west 5721786000 21600,
    west 5737507200 25200, west 5753235600 21600, west 5769561600 25200, west 5784685200 21600,
    west 5801011200 25200, west 5816739600 21600, west 5832460800 25200, west 5848189200 21600,
    west 5863910400 25200, west 5879638800 21600, west 5895360000 25200, west 5909274000 21600,
    west 5926809600 25200, west 5940723600 21600, west 5958864000 25200, west 5972173200 21600,
    west 5990313600 25200, west 6003622800 21600, west 6021763200 25200, west 6035677200 21600,
    west 6053212800 25200, west 6067126800 21600, west 6084662400 25200, west 6098576400 21600,
    west 6116716800 25200, west 6130026000 21600, west 6148166400 25200, west 6161475600 21600,
    west 6179616000 25200, west 6193530000 21600, west 6211065600 25200, west 6224979600 21600,
    west 6242515200 25200, west 6256429200 21600, west 6273964800 25200, west 6287878800 21600,
    west 6306019200 25200, west 6319328400 21600, west 6337468800 25200, west 6350778000 21600,
    west 6368918400 25200, west 6382832400 21600, west 6400368000 25200, west 6414282000 21600,
    west 6431817600 25200, west 6445731600 21600, west 6463872000 25200, west 6477181200 21600,
    west 6495321600 25200, west 6508630800 21600, west 6526771200 25200, west 6538266000 21600,
    west 6558825600 25200, west 6569715600 21600, west 6590275200 25200, west 6601165200 21600,
    west 6621724800 25200, west 6633219600 21600, west 6653779200 25200, west 6664669200 21600,
    west 6685228800 25200, west 6696118800 21600, west 6716678400 25200, west 6727568400 21600,
    west 6748128000 25200, west 6759018000 21600, west 6779577600 25200, west 6790467600 21600,
    west 6811027200 25200, west 6822522000 21600, west 6843081600 25200, west 6853971600 21600,
    west 6874531200 25200, west 6885421200 21600, west 6905980800 25200, west 6916870800 21600,
    west 6937430400 25200, west 6948320400 21600, west 6968880000 25200, west 6980374800 21600,
    west 7000934400 25200, west 7011824400 21600, west 7032384000 25200, west 7043274000 21600,
    west 7063833600 25200, west 7074723600 21600, west 7095283200 25200, west 7106173200 21600,
    west 7126732800 25200, west 7137622800 21600, west 7158182400 25200, west 7169677200 21600,
    west 7190236800 25200, west 7201126800 21600, west 7221686400 25200, west 7232576400 21600,
    west 7253136000 25200, west 7264026000 21600, west 7284585600 25200, west 7295475600 21600,
    west 7316035200 25200, west 7327530000 21600, west 7348089600 25200, west 7358979600 21600,
    west 7379539200 25200, west 7390429200 21600, west 7410988800 25200, west 7421878800 21600,
    west 7442438400 25200, west 7453328400 21600, west 7473888000 25200, west 7484778000 21600,
    west 7505337600 25200, west 7516832400 21600, west 7537392000 25200, west 7548282000 21600,
    west 7568841600 25200, west 7579731600 21600, west 7600291200 25200, west 7611181200 21600,
    west 7631740800 25200, west 7642630800 21600, west 7663190400 25200, west 7674080400 21600,
    west 7694640000 25200, west 7706134800 21600, west 7726694400 25200, west 7737584400 21600,
    west 7758144000 25200, west 7769034000 21600, west 7789593600 25200, west 7800483600 21600,
    west 7821043200 25200, west 7831933200 21600, west 7852492800 25200, west 7863987600 21600,
    west 7884547200 25200, west 7895437200 21600, west 7915996800 25200, west 7926886800 21600,
    west 7947446400 25200, west 7958336400 21600, west 7978896000 25200, west 7989786000 21600,
    west 8010345600 25200, west 8021235600 21600, west 8041795200 25200, west 8053290000 21600,
    west 8073849600 25200, west 8084739600 21600, west 8105299200 25200, west 8116189200 21600,
    west 8136748800 25200, west 8147638800 21600, west 8168198400 25200, west 8179088400 21600,
    west 8199648000 25200, west 8211142800 21600, west 8231702400 25200, west 8242592400 21600,
    west 8263152000 25200, west 8274042000 21600, west 8294601600 25200, west 8305491600 21600,
    west 8326051200 25200, west 8336941200 21600, west 8357500800 25200, west 8368390800 21600,
    west 8388950400 25200, west 8400445200 21600, west 8421004800 25200, west 8431894800 21600,
    west 8452454400 25200, west 8463344400 21600, west 8483904000 25200, west 8494794000 21600,
    west 8515353600 25200, west 8526243600 21600, west 8546803200 25200, west 8557693200 21600,
    west 8578252800 25200, west 8589747600 21600, west 8610307200 25200, west 8621197200 21600,
    west 8641756800 25200, west 8652646800 21600, west 8673206400 25200, west 8684096400 21600,
    west 8704656000 25200, west 8715546000 21600, west 8736105600 25200, west 8747600400 21600,
    west 8768160000 25200, west 8779050000 21600, west 8799609600 25200, west 8810499600 21600,
    west 8831059200 25200, west 8841949200 21600, west 8862508800 25200, west 8873398800 21600,
    west 8893958400 25200, west 8904848400 21600, west 8925408000 25200, west 8936902800 21600,
    west 8957462400 25200, west 8968352400 21600, west 8988912000 25200, west 8999802000 21600,
    west 9020361600 25200, west 9031251600 21600, west 9051811200 25200, west 9062701200 21600,
    west 9083260800 25200, west 9094755600 21600, west 9115315200 25200, west 9126205200 21600,
    west 9146764800 25200, west 9157654800 21600, west 9178214400 25200, west 9189104400 21600,
    west 9209664000 25200, west 9220554000 21600, west 9241113600 25200, west 9252003600 21600,
    west 9272563200 25200, west 9284058000 21600, west 9304617600 25200, west 9315507600 21600,
    west 9336067200 25200, west 9346957200 21600, west 9367516800 25200, west 9378406800 21600,
    west 9398966400 25200, west 9409856400 21600, west 9430416000 25200, west 9441306000 21600,
    west 9461865600 25200]

/-- The zone America/Halifax. -/
def halifax : Zone where
  name := "America/Halifax"
  first := -15264
  changes := [
    west 3233016864 14400, west 3668385600 10800, west 3684193200 14400, west 3732588000 10800,
    west 3749518800 14400, west 3797899200 10800, west 3807572400 14400, west 3829176000 10800,
    west 3839713200 14400, west 3860193600 10800, west 3871249200 14400, west 3892248000 10800,
    west 3902698800 14400, west 3923697600 10800, west 3935271600 14400, west 3955147200 10800,
    west 3967930800 14400, west 3987806400 10800, west 3998170800 14400, west 4018046400 10800,
    west 4030830000 14400, west 4050705600 10800, west 4060983600 14400, west 4082155200 10800,
    west 4092001200 14400, west 4113604800 10800, west 4124574000 14400, west 4145054400 10800,
    west 4157233200 14400, west 4175899200 10800, west 4188682800 14400, west 4207348800 10800,
    west 4220737200 14400, west 4240612800 10800, west 4250890800 14400, west 4273272000 10800,
    west 4283636400 14400, west 4304808000 10800, west 4313876400 14400, west 4333752000 10800,
    west 4346535600 14400, west 4365201600 10800, west 4377985200 14400, west 4399070400 10800,
    west 4409434800 14400, west 4428705600 10800, west 4441489200 14400, west 4460155200 10800,
    west 4472938800 14400, west 4484440800 10800, west 4599262800 14400, west 4617410400 10800,
    west 4630712400 14400, west 4648860000 10800, west 4662162000 14400, west 4680309600 10800,
    west 4693611600 14400, west 4711759200 10800, west 4725061200 14400, west 4775263200 10800,
    west 4788565200 14400, west 4806712800 10800, west 4820014800 14400, west 4838162400 10800,
    west 4851464400 14400, west 4869612000 10800, west 4882914000 14400, west 4933116000 10800,
    west 4946418000 14400, west 4964565600 10800, west 4977867600 14400, west 4996015200 10800,
    west 5009317200 14400, west 5027464800 10800, west 5040766800 14400, west 5122418400 10800,
    west 5138139600 14400, west 5153868000 10800, west 5169589200 14400, west 5185317600 10800,
    west 5201038800 14400, west 5216767200 10800, west 5233093200 14400, west 5248216800 10800,
    west 5264542800 14400, west 5280271200 10800, west 5295992400 14400, west 5311720800 10800,
    west 5327442000 14400, west 5343170400 10800, west 5358891600 14400, west 5374620000 10800,
    west 5390341200 14400, west 5406069600 10800, west 5422395600 14400, west 5438124000 10800,
    west 5453845200 14400, west 5469573600 10800, west 5485294800 14400, west 5501023200 10800,
    west 5516744400 14400, west 5532472800 10800, west 5548194000 14400, west 5563922400 10800,
    west 5580248400 14400, west 5595372000 10800, west 5611698000 14400, west 5627426400 10800,
    west 5643147600 14400, west 5658876000 10800, west 5674597200 14400, west 5690325600 10800,
    west 5706046800 14400, west 5721775200 10800, west 5737496400 14400, west 5753224800 10800,
    west 5769550800 14400, west 5784674400 10800, west 5801000400 14400, west 5816728800 10800,
    west 5832450000 14400, west 5848178400 10800, west 5863899600 14400, west 5879628000 10800,
    west 5895349200 14400, west 5909263200 10800, west 5926798800 14400, west 5940712800 10800,
    west 5958853200 14400, west 5972162400 10800, west 5990302800 14400, west 6003612000 10800,
    west 6021752400 14400, west 6035666400 10800, west 6053202000 14400, west 6067116000 10800,
    west 6084651600 14400, west 6098565600 10800, west 6116706000 14400, west 6130015200 10800,
    west 6148155600 14400, west 6161464800 10800, west 6179605200 14400, west 6193519200 10800,
    west 6211054800 14400, west 6224968800 10800, west 6242504400 14400, west 6256418400 10800,
    west 6273954000 14400, west 6287868000 10800, west 6306008400 14400, west 6319317600 10800,
    west 6337458000 14400, west 6350767200 10800, west 6368907600 14400, west 6382821600 10800,
    west 6400357200 14400, west 6414271200 10800, west 6431806800 14400, west 6445720800 10800,
    west 6463861200 14400, west 6477170400 10800, west 6495310800 14400, west 6508620000 10800,
    west 6526760400 14400, west 6538255200 10800, west 6558814800 14400, west 6569704800 10800,
    west 6590264400 14400, west 6601154400 10800, west 6621714000 14400, west 6633208800 10800,
    west 6653768400 14400, west 6664658400 10800, west 6685218000 14400, west 6696108000 10800,
    west 6716667600 14400, west 6727557600 10800, west 6748117200 14400, west 6759007200 10800,
    west 6779566800 14400, west 6790456800 10800, west 6811016400 14400, west 6822511200 10800,
    west 6843070800 14400, west 6853960800 10800, west 6874520400 14400, west 6885410400 10800,
    west 6905970000 14400, west 6916860000 10800, west 6937419600 14400, west 6948309600 10800,
    west 6968869200 14400, west 6980364000 10800, west 7000923600 14400, west 7011813600 10800,
    west 7032373200 14400, west 7043263200 10800, west 7063822800 14400, west 7074712800 10800,
    west 7095272400 14400, west 7106162400 10800, west 7126722000 14400, west 7137612000 10800,
    west 7158171600 14400, west 7169666400 10800, west 7190226000 14400, west 7201116000 10800,
    west 7221675600 14400, west 7232565600 10800, west 7253125200 14400, west 7264015200 10800,
    west 7284574800 14400, west 7295464800 10800, west 7316024400 14400, west 7327519200 10800,
    west 7348078800 14400, west 7358968800 10800, west 7379528400 14400, west 7390418400 10800,
    west 7410978000 14400, west 7421868000 10800, west 7442427600 14400, west 7453317600 10800,
    west 7473877200 14400, west 7484767200 10800, west 7505326800 14400, west 7516821600 10800,
    west 7537381200 14400, west 7548271200 10800, west 7568830800 14400, west 7579720800 10800,
    west 7600280400 14400, west 7611170400 10800, west 7631730000 14400, west 7642620000 10800,
    west 7663179600 14400, west 7674069600 10800, west 7694629200 14400, west 7706124000 10800,
    west 7726683600 14400, west 7737573600 10800, west 7758133200 14400, west 7769023200 10800,
    west 7789582800 14400, west 7800472800 10800, west 7821032400 14400, west 7831922400 10800,
    west 7852482000 14400, west 7863976800 10800, west 7884536400 14400, west 7895426400 10800,
    west 7915986000 14400, west 7926876000 10800, west 7947435600 14400, west 7958325600 10800,
    west 7978885200 14400, west 7989775200 10800, west 8010334800 14400, west 8021224800 10800,
    west 8041784400 14400, west 8053279200 10800, west 8073838800 14400, west 8084728800 10800,
    west 8105288400 14400, west 8116178400 10800, west 8136738000 14400, west 8147628000 10800,
    west 8168187600 14400, west 8179077600 10800, west 8199637200 14400, west 8211132000 10800,
    west 8231691600 14400, west 8242581600 10800, west 8263141200 14400, west 8274031200 10800,
    west 8294590800 14400, west 8305480800 10800, west 8326040400 14400, west 8336930400 10800,
    west 8357490000 14400, west 8368380000 10800, west 8388939600 14400, west 8400434400 10800,
    west 8420994000 14400, west 8431884000 10800, west 8452443600 14400, west 8463333600 10800,
    west 8483893200 14400, west 8494783200 10800, west 8515342800 14400, west 8526232800 10800,
    west 8546792400 14400, west 8557682400 10800, west 8578242000 14400, west 8589736800 10800,
    west 8610296400 14400, west 8621186400 10800, west 8641746000 14400, west 8652636000 10800,
    west 8673195600 14400, west 8684085600 10800, west 8704645200 14400, west 8715535200 10800,
    west 8736094800 14400, west 8747589600 10800, west 8768149200 14400, west 8779039200 10800,
    west 8799598800 14400, west 8810488800 10800, west 8831048400 14400, west 8841938400 10800,
    west 8862498000 14400, west 8873388000 10800, west 8893947600 14400, west 8904837600 10800,
    west 8925397200 14400, west 8936892000 10800, west 8957451600 14400, west 8968341600 10800,
    west 8988901200 14400, west 8999791200 10800, west 9020350800 14400, west 9031240800 10800,
    west 9051800400 14400, west 9062690400 10800, west 9083250000 14400, west 9094744800 10800,
    west 9115304400 14400, west 9126194400 10800, west 9146754000 14400, west 9157644000 10800,
    west 9178203600 14400, west 9189093600 10800, west 9209653200 14400, west 9220543200 10800,
    west 9241102800 14400, west 9251992800 10800, west 9272552400 14400, west 9284047200 10800,
    west 9304606800 14400, west 9315496800 10800, west 9336056400 14400, west 9346946400 10800,
    west 9367506000 14400, west 9378396000 10800, west 9398955600 14400, west 9409845600 10800,
    west 9430405200 14400, west 9441295200 10800, west 9461854800 14400]

/-- The zone America/Lima. -/
def lima : Zone where
  name := "America/Lima"
  first := -18492
  changes := [
    west 2840159292 18516, west 3426124116 18000, west 4354837200 14400, west 4362609600 18000,
    west 4377906000 14400, west 4393627200 18000, west 4409355600 14400, west 4425076800 18000,
    west 5869602000 14400, west 5877374400 18000, west 5901138000 14400, west 5908910400 18000,
    west 5995832400 14400, west 6003604800 18000, west 6122062800 14400, west 6129835200 18000]

/-- The zone America/Los_Angeles. -/
def losAngeles : Zone where
  name := "America/Los_Angeles"
  first := -28378
  changes := [
    west 2647022400 28800, west 3731392800 25200, west 3749533200 28800, west 3762842400 25200,
    west 3780982800 28800, west 4484455200 25200, west 4599277200 28800, west 4676695260 25200,
    west 4702006800 28800, west 4743824400 25200, west 4756525200 28800, west 4775274000 25200,
    west 4788579600 28800, west 4806723600 25200, west 4820029200 28800, west 4838173200 25200,
    west 4851478800 28800, west 4869622800 25200, west 4882928400 28800, west 4901072400 25200,
    west 4914378000 28800, west 4933126800 25200, west 4946432400 28800, west 4964576400 25200,
    west 4977882000 28800, west 4996026000 25200, west 5009331600 28800, west 5027475600 25200,
    west 5040781200 28800, west 5058925200 25200, west 5072230800 28800, west 5090979600 25200,
    west 5103680400 28800, west 5122429200 25200, west 5138154000 28800, west 5153878800 25200,
    west 5169603600 28800, west 5185328400 25200, west 5201053200 28800, west 5216778000 25200,
    west 5233107600 28800, west 5248227600 25200, west 5264557200 28800, west 5280285600 25200,
    west 5296006800 28800, west 5311735200 25200, west 5327456400 28800, west 5343184800 25200,
    west 5358906000 28800, west 5374634400 25200, west 5390355600 28800, west 5406084000 25200,
    west 5422410000 28800, west 5438138400 25200, west 5453859600 28800, west 5469588000 25200,
    west 5485309200 28800, west 5491360800 25200, west 5516758800 28800, west 5527044000 25200,
    west 5548208400 28800, west 5563936800 25200, west 5580262800 28800, west 5595386400 25200,
    west 5611712400 28800, west 5627440800 25200, west 5643162000 28800, west 5658890400 25200,
    west 5674611600 28800, west 5690340000 25200, west 5706061200 28800, west 5721789600 25200,
    west 5737510800 28800, west 5753239200 25200, west 5769565200 28800, west 5784688800 25200,
    west 5801014800 28800, west 5816743200 25200, west 5832464400 28800, west 5848192800 25200,
    west 5863914000 28800, west 5879642400 25200, west 5895363600 28800, west 5909277600 25200,
    west 5926813200 28800, west 5940727200 25200, west 5958867600 28800, west 5972176800 25200,
    west 5990317200 28800, west 6003626400 25200, west 6021766800 28800, west 6035680800 25200,
    west 6053216400 28800, west 6067130400 25200, west 6084666000 28800, west 6098580000 25200,
    west 6116720400 28800, west 6130029600 25200, west 6148170000 28800, west 6161479200 25200,
    west 6179619600 28800, west 6193533600 25200, west 6211069200 28800, west 6224983200 25200,
    west 6242518800 28800, west 6256432800 25200, west 6273968400 28800, west 6287882400 25200,
    west 6306022800 28800, west 6319332000 25200, west 6337472400 28800, west 6350781600 25200,
    west 6368922000 28800, west 6382836000 25200, west 6400371600 28800, west 6414285600 25200,
    west 6431821200 28800, west 6445735200 25200, west 6463875600 28800, west 6477184800 25200,
    west 6495325200 28800, west 6508634400 25200, west 6526774800 28800, west 6538269600 25200,
    west 6558829200 28800, west 6569719200 25200, west 6590278800 28800, west 6601168800 25200,
    west 6621728400 28800, west 6633223200 25200, west 6653782800 28800, west 6664672800 25200,
    west 6685232400 28800, west 6696122400 25200, west 6716682000 28800, west 6727572000 25200,
    west 6748131600 28800, west 6759021600 25200, west 6779581200 28800, west 6790471200 25200,
    west 6811030800 28800, west 6822525600 25200, west 6843085200 28800, west 6853975200 25200,
    west 6874534800 28800, west 6885424800 25200, west 6905984400 28800, west 6916874400 25200,
    west 6937434000 28800, west 6948324000 25200, west 6968883600 28800, west 6980378400 25200,
    west 7000938000 28800, west 7011828000 25200, west 7032387600 28800, west 7043277600 25200,
    west 7063837200 28800, west 7074727200 25200, west 7095286800 28800, west 7106176800 25200,
    west 7126736400 28800, west 7137626400 25200, west 7158186000 28800, west 7169680800 25200,
    west 7190240400 28800, west 7201130400 25200, west 7221690000 28800, west 7232580000 25200,
    west 7253139600 28800, west 7264029600 25200, west 7284589200 28800, west 7295479200 25200,
    west 7316038800 28800, west 7327533600 25200, west 7348093200 28800, west 7358983200 25200,
    west 7379542800 28800, west 7390432800 25200, west 7410992400 28800, west 7421882400 25200,
    west 7442442000 28800, west 7453332000 25200, west 7473891600 28800, west 7484781600 25200,
    west 7505341200 28800, west 7516836000 25200, west 7537395600 28800, west 7548285600 25200,
    west 7568845200 28800, west 7579735200 25200, west 7600294800 28800, west 7611184800 25200,
    west 7631744400 28800, west 7642634400 25200, west 7663194000 28800, west 7674084000 25200,
    west 7694643600 28800, west 7706138400 25200, west 7726698000 28800, west 7737588000 25200,
    west 7758147600 28800, west 7769037600 25200, west 7789597200 28800, west 7800487200 25200,
    west 7821046800 28800, west 7831936800 25200, west 7852496400 28800, west 7863991200 25200,
    west 7884550800 28800, west 7895440800 25200, west 7916000400 28800, west 7926890400 25200,
    west 7947450000 28800, west 7958340000 25200, west 7978899600 28800, west 7989789600 25200,
    west 8010349200 28800, west 8021239200 25200, west 8041798800 28800, west 8053293600 25200,
    west 8073853200 28800, west 8084743200 25200, west 8105302800 28800, west 8116192800 25200,
    west 8136752400 28800, west 8147642400 25200, west 8168202000 28800, west 8179092000 25200,
    west 8199651600 28800, west 8211146400 25200, west 8231706000 28800, west 8242596000 25200,
    west 8263155600 28800, west 8274045600 25200, west 8294605200 28800, west 8305495200 25200,
    west 8326054800 28800, west 8336944800 25200, west 8357504400 28800, west 8368394400 25200,
    west 8388954000 28800, west 8400448800 25200, west 8421008400 28800, west 8431898400 25200,
    west 8452458000 28800, west 8463348000 25200, west 8483907600 28800, west 8494797600 25200,
    west 8515357200 28800, west 8526247200 25200, west 8546806800 28800, west 8557696800 25200,
    west 8578256400 28800, west 8589751200 25200, west 8610310800 28800, west 8621200800 25200,
    west 8641760400 28800, west 8652650400 25200, west 8673210000 28800, west 8684100000 25200,
    west 8704659600 28800, west 8715549600 25200, west 8736109200 28800, west 8747604000 25200,
    west 8768163600 28800, west 8779053600 25200, west 8799613200 28800, west 8810503200 25200,
    west 8831062800 28800, west 8841952800 25200, west 8862512400 28800, west 8873402400 25200,
    west 8893962000 28800, west 8904852000 25200, west 8925411600 28800, west 8936906400 25200,
    west 8957466000 28800, west 8968356000 25200, west 8988915600 28800, west 8999805600 25200,
    west 9020365200 28800, west 9031255200 25200, west 9051814800 28800, west 9062704800 25200,
    west 9083264400 28800, west 9094759200 25200, west 9115318800 28800, west 9126208800 25200,
    west 9146768400 28800, west 9157658400 25200, west 9178218000 28800, west 9189108000 25200,
    west 9209667600 28800, west 9220557600 25200, west 9241117200 28800, west 9252007200 25200,
    west 9272566800 28800, west 9284061600 25200, west 9304621200 28800, west 9315511200 25200,
    west 9336070800 28800, west 9346960800 25200, west 9367520400 28800, west 9378410400 25200,
    west 9398970000 28800, west 9409860000 25200, west 9430419600 28800, west 9441309600 25200,
    west 9461869200 28800]

/-- The zone America/New_York. -/
def newYork : Zone where
  name := "America/New_York"
  first := -17762
  changes := [
    west 2647011600 18000, west 3731382000 14400, west 3749522400 18000, west 3762831600 14400,
    west 3780972000 18000, west 3794281200 14400, west 3813026400 18000, west 3828150000 14400,
    west 3841452000 18000, west 3860204400 14400, west 3872901600 18000, west 3891654000 14400,
    west 3904956000 18000, west 3923103600 14400, west 3936405600 18000, west 3954553200 14400,
    west 3967855200 18000, west 3986002800 14400, west 3999304800 18000, west 4017452400 14400,
    west 4030754400 18000, west 4049506800 14400, west 4062808800 18000, west 4080956400 14400,
    west 4094258400 18000, west 4112406000 14400, west 4125708000 18000, west 4143855600 14400,
    west 4157157600 18000, west 4175305200 14400, west 4188607200 18000, west 4207359600 14400,
    west 4220056800 18000, west 4238809200 14400, west 4252111200 18000, west 4270258800 14400,
    west 4283560800 18000, west 4301708400 14400, west 4315010400 18000, west 4333158000 14400,
    west 4346460000 18000, west 4364607600 14400, west 4377909600 18000, west 4396662000 14400,
    west 4409359200 18000, west 4428111600 14400, west 4441413600 18000, west 4459561200 14400,
    west 4472863200 18000, west 4484444400 14400, west 4599266400 18000, west 4617414000 14400,
    west 4630716000 18000, west 4648863600 14400, west 4662165600 18000, west 4680313200 14400,
    west 4693615200 18000, west 4711762800 14400, west 4725064800 18000, west 4743817200 14400,
    west 4756514400 18000, west 4775266800 14400, west 4788568800 18000, west 4806716400 14400,
    west 4820018400 18000, west 4838166000 14400, west 4851468000 18000, west 4869615600 14400,
    west 4882917600 18000, west 4901065200 14400, west 4917391200 18000, west 4933119600 14400,
    west 4948840800 18000, west 4964569200 14400, west 4980290400 18000, west 4996018800 14400,
    west 5011740000 18000, west 5027468400 14400, west 5043189600 18000, west 5058918000 14400,
    west 5075244000 18000, west 5090972400 14400, west 5106693600 18000, west 5122422000 14400,
    west 5138143200 18000, west 5153871600 14400, west 5169592800 18000, west 5185321200 14400,
    west 5201042400 18000, west 5216770800 14400, west 5233096800 18000, west 5248220400 14400,
    west 5264546400 18000, west 5280274800 14400, west 5295996000 18000, west 5311724400 14400,
    west 5327445600 18000, west 5343174000 14400, west 5358895200 18000, west 5374623600 14400,
    west 5390344800 18000, west 5406073200 14400, west 5422399200 18000, west 5438127600 14400,
    west 5453848800 18000, west 5469577200 14400, west 5485298400 18000, west 5491350000 14400,
    west 5516748000 18000, west 5527033200 14400, west 5548197600 18000, west 5563926000 14400,
    west 5580252000 18000, west 5595375600 14400, west 5611701600 18000, west 5627430000 14400,
    west 5643151200 18000, west 5658879600 14400, west 5674600800 18000, west 5690329200 14400,
    west 5706050400 18000, west 5721778800 14400, west 5737500000 18000, west 5753228400 14400,
    west 5769554400 18000, west 5784678000 14400, west 5801004000 18000, west 5816732400 14400,
    west 5832453600 18000, west 5848182000 14400, west 5863903200 18000, west 5879631600 14400,
    west 5895352800 18000, west 5909266800 14400, west 5926802400 18000, west 5940716400 14400,
    west 5958856800 18000, west 5972166000 14400, west 5990306400 18000, west 6003615600 14400,
    west 6021756000 18000, west 6035670000 14400, west 6053205600 18000, west 6067119600 14400,
    west 6084655200 18000, west 6098569200 14400, west 6116709600 18000, west 6130018800 14400,
    west 6148159200 18000, west 6161468400 14400, west 6179608800 18000, west 6193522800 14400,
    west 6211058400 18000, west 6224972400 14400, west 6242508000 18000, west 6256422000 14400,
    west 6273957600 18000, west 6287871600 14400, west 6306012000 18000, west 6319321200 14400,
    west 6337461600 18000, west 6350770800 14400, west 6368911200 18000, west 6382825200 14400,
    west 6400360800 18000, west 6414274800 14400, west 6431810400 18000, west 6445724400 14400,
    west 6463864800 18000, west 6477174000 14400, west 6495314400 18000, west 6508623600 14400,
    west 6526764000 18000, west 6538258800 14400, west 6558818400 18000, west 6569708400 14400,
    west 6590268000 18000, west 6601158000 14400, west 6621717600 18000, west 6633212400 14400,
    west 6653772000 18000, west 6664662000 14400, west 6685221600 18000, west 6696111600 14400,
    west 6716671200 18000, west 6727561200 14400, west 6748120800 18000, west 6759010800 14400,
    west 6779570400 18000, west 6790460400 14400, west 6811020000 18000, west 6822514800 14400,
    west 6843074400 18000, west 6853964400 14400, west 6874524000 18000, west 6885414000 14400,
    west 6905973600 18000, west 6916863600 14400, west 6937423200 18000, west 6948313200 14400,
    west 6968872800 18000, west 6980367600 14400, west 7000927200 18000, west 7011817200 14400,
    west 7032376800 18000, west 7043266800 14400, west 7063826400 18000, west 7074716400 14400,
    west 7095276000 18000, west 7106166000 14400, west 7126725600 18000, west 7137615600 14400,
    west 7158175200 18000, west 7169670000 14400, west 7190229600 18000, west 7201119600 14400,
    west 7221679200 18000, west 7232569200 14400, west 7253128800 18000, west 7264018800 14400,
    west 7284578400 18000, west 7295468400 14400, west 7316028000 18000, west 7327522800 14400,
    west 7348082400 18000, west 7358972400 14400, west 7379532000 18000, west 7390422000 14400,
    west 7410981600 18000, west 7421871600 14400, west 7442431200 18000, west 7453321200 14400,
    west 7473880800 18000, west 7484770800 14400, west 7505330400 18000, west 7516825200 14400,
    west 7537384800 18000, west 7548274800 14400, west 7568834400 18000, west 7579724400 14400,
    west 7600284000 18000, west 7611174000 14400, west 7631733600 18000, west 7642623600 14400,
    west 7663183200 18000, west 7674073200 14400, west 7694632800 18000, west 7706127600 14400,
    west 7726687200 18000, west 7737577200 14400, west 7758136800 18000, west 7769026800 14400,
    west 7789586400 18000, west 7800476400 14400, west 7821036000 18000, west 7831926000 14400,
    west 7852485600 18000, west 7863980400 14400, west 7884540000 18000, west 7895430000 14400,
    west 7915989600 18000, west 7926879600 14400, west 7947439200 18000, west 7958329200 14400,
    west 7978888800 18000, west 7989778800 14400, west 8010338400 18000, west 8021228400 14400,
    west 8041788000 18000, west 8053282800 14400, west 8073842400 18000, west 8084732400 14400,
    west 8105292000 18000, west 8116182000 14400, west 8136741600 18000, west 8147631600 14400,
    west 8168191200 18000, west 8179081200 14400, west 8199640800 18000, west 8211135600 14400,
    west 8231695200 18000, west 8242585200 14400, west 8263144800 18000, west 8274034800 14400,
    west 8294594400 18000, west 8305484400 14400, west 8326044000 18000, west 8336934000 14400,
    west 8357493600 18000, west 8368383600 14400, west 8388943200 18000, west 8400438000 14400,
    west 8420997600 18000, west 8431887600 14400, west 8452447200 18000, west 8463337200 14400,
    west 8483896800 18000, west 8494786800 14400, west 8515346400 18000, west 8526236400 14400,
    west 8546796000 18000, west 8557686000 14400, west 8578245600 18000, west 8589740400 14400,
    west 8610300000 18000, west 8621190000 14400, west 8641749600 18000, west 8652639600 14400,
    west 8673199200 18000, west 8684089200 14400, west 8704648800 18000, west 8715538800 14400,
    west 8736098400 18000, west 8747593200 14400, west 8768152800 18000, west 8779042800 14400,
    west 8799602400 18000, west 8810492400 14400, west 8831052000 18000, west 8841942000 14400,
    west 8862501600 18000, west 8873391600 14400, west 8893951200 18000, west 8904841200 14400,
    west 8925400800 18000, west 8936895600 14400, west 8957455200 18000, west 8968345200 14400,
    west 8988904800 18000, west 8999794800 14400, west 9020354400 18000, west 9031244400 14400,
    west 9051804000 18000, west 9062694000 14400, west 9083253600 18000, west 9094748400 14400,
    west 9115308000 18000, west 9126198000 14400, west 9146757600 18000, west 9157647600 14400,
    west 9178207200 18000, west 9189097200 14400, west 9209656800 18000, west 9220546800 14400,
    west 9241106400 18000, west 9251996400 14400, west 9272556000 18000, west 9284050800 14400,
    west 9304610400 18000, west 9315500400 14400, west 9336060000 18000, west 9346950000 14400,
    west 9367509600 18000, west 9378399600 14400, west 9398959200 18000, west 9409849200 14400,
    west 9430408800 18000, west 9441298800 14400, west 9461858400 18000]

/-- The zone America/Phoenix. -/
def phoenix : Zone where
  name := "America/Phoenix"
  first := -26898
  changes := [
    west 2647018800 25200, west 3731389200 21600, west 3749529600 25200, west 3762838800 21600,
    west 3780979200 25200, west 4484451600 21600, west 4544143260 25200, west 4552009260 21600,
    west 4567816860 25200, west 5280282000 21600, west 5296003200 25200]

/-- The zone America/Puerto_Rico. -/
def puertoRico : Zone where
  name := "America/Puerto_Rico"
  first := -15865
  changes := [
    west 3131627065 14400, west 4491604800 10800, west 4599262800 14400]

/-- The zone America/Santiago. -/
def santiago : Zone where
  name := "America/Santiago"
  first := -16965
  changes := [
    west 3472000965 18000, west 3676251600 16965, west 3745456965 14400, west 3770856000 16965,
    west 4028676165 14400, west 4047076800 18000, west 4060299600 14400, west 4078612800 18000,
    west 4091835600 14400, west 4110148800 18000, west 4123371600 14400, west 4141684800 18000,
    west 4154907600 14400, west 4173307200 18000, west 4186530000 14400, west 4494110400 18000,
    west 4499384400 14400, west 4624142400 10800, west 4628026800 14400, west 4646606400 18000,
    west 4651012800 14400, west 5328043200 10800, west 5340740400 14400, west 5361307200 10800,
    west 5372190000 14400, west 5389128000 10800, west 5402430000 14400, west 5420577600 10800,
    west 5433879600 14400, west 5452632000 10800, west 5465329200 14400, west 5482872000 10800,
    west 5496778800 14400, west 5515531200 10800, west 5528228400 14400, west 5546980800 10800,
    west 5560282800 14400, west 5578430400 10800, west 5591732400 14400, west 5609880000 10800,
    west 5623182000 14400, west 5641934400 10800, west 5654631600 14400, west 5673384000 10800,
    west 5686081200 14400, west 5704833600 10800, west 5718135600 14400, west 5736283200 10800,
    west 5749585200 14400, west 5767732800 10800, west 5781034800 14400, west 5799182400 10800,
    west 5812484400 14400, west 5831236800 10800, west 5843934000 14400, west 5862686400 10800,
    west 5875383600 14400, west 5894136000 10800, west 5909857200 14400, west 5925585600 10800,
    west 5938887600 14400, west 5957035200 10800, west 5970337200 14400, west 5989089600 10800,
    west 6001786800 14400, west 6018120000 10800, west 6033236400 14400, west 6051988800 10800,
    west 6065290800 14400, west 6083438400 10800, west 6096740400 14400, west 6114888000 10800,
    west 6128190000 14400, west 6146337600 10800, west 6159639600 14400, west 6178392000 10800,
    west 6191089200 14400, west 6209841600 10800, west 6224353200 14400, west 6241291200 10800,
    west 6254593200 14400, west 6271531200 10800, west 6287857200 14400, west 6304190400 10800,
    west 6317492400 14400, west 6336244800 10800, west 6348942000 14400, west 6367694400 10800,
    west 6380391600 14400, west 6399144000 10800, west 6411841200 14400, west 6430593600 10800,
    west 6443895600 14400, west 6462043200 10800, west 6475345200 14400, west 6493492800 10800,
    west 6506794800 14400, west 6525547200 10800, west 6538244400 14400, west 6556996800 10800,
    west 6571508400 14400, west 6588446400 10800, west 6601748400 14400, west 6619896000 10800,
    west 6635012400 14400, west 6651345600 10800, west 6669486000 14400, west 6678561600 10800,
    west 6700330800 14400, west 6711220800 10800, west 6731780400 14400, west 6743275200 10800,
    west 6763230000 14400, west 6774724800 10800, west 6827943600 14400, west 6835809600 10800,
    west 6859393200 14400, west 6867259200 10800, west 6890842800 14400, west 6898708800 10800,
    west 6919268400 14400, west 6932577600 10800, west 6950718000 14400, west 6964027200 10800,
    west 6982167600 14400, west 6995476800 10800, west 7013617200 14400, west 7027531200 10800,
    west 7045066800 14400, west 7058376000 10800, west 7077121200 14400, west 7090430400 10800,
    west 7108570800 14400, west 7121880000 10800, west 7140020400 14400, west 7153329600 10800,
    west 7171470000 14400, west 7184779200 10800, west 7202919600 14400, west 7216228800 10800,
    west 7234974000 14400, west 7247678400 10800, west 7266423600 14400, west 7279732800 10800,
    west 7297873200 14400, west 7311182400 10800, west 7329322800 14400, west 7342632000 10800,
    west 7360772400 14400, west 7374081600 10800, west 7392222000 14400, west 7405531200 10800,
    west 7424276400 14400, west 7436980800 10800, west 7455726000 14400, west 7469035200 10800,
    west 7487175600 14400, west 7500484800 10800, west 7518625200 14400, west 7531934400 10800,
    west 7550074800 14400, west 7563384000 10800, west 7582129200 14400, west 7594833600 10800,
    west 7613578800 14400, west 7626888000 10800, west 7645028400 14400, west 7658337600 10800,
    west 7676478000 14400, west 7689787200 10800, west 7707927600 14400, west 7721236800 10800,
    west 7739377200 14400, west 7752686400 10800, west 7771431600 14400, west 7784136000 10800,
    west 7802881200 14400, west 7816190400 10800, west 7834330800 14400, west 7847640000 10800,
    west 7865780400 14400, west 7879089600 10800, west 7897230000 14400, west 7910539200 10800,
    west 7928679600 14400, west 7941988800 10800, west 7960734000 14400, west 7974043200 10800,
    west 7992183600 14400, west 8005492800 10800, west 8023633200 14400, west 8036942400 10800,
    west 8055082800 14400, west 8068392000 10800, west 8086532400 14400, west 8099841600 10800,
    west 8118586800 14400, west 8131291200 10800, west 8150036400 14400, west 8163345600 10800,
    west 8181486000 14400, west 8194795200 10800, west 8212935600 14400, west 8226244800 10800,
    west 8244385200 14400, west 8257694400 10800, west 8275834800 14400, west 8289144000 10800,
    west 8307889200 14400, west 8320593600 10800, west 8339338800 14400, west 8352648000 10800,
    west 8370788400 14400, west 8384097600 10800, west 8402238000 14400, west 8415547200 10800,
    west 8433687600 14400, west 8446996800 10800, west 8465742000 14400, west 8478446400 10800,
    west 8497191600 14400, west 8510500800 10800, west 8528641200 14400, west 8541950400 10800,
    west 8560090800 14400, west 8573400000 10800, west 8591540400 14400, west 8604849600 10800,
    west 8622990000 14400, west 8636299200 10800, west 8655044400 14400, west 8667748800 10800,
    west 8686494000 14400, west 8699803200 10800, west 8717943600 14400, west 8731252800 10800,
    west 8749393200 14400, west 8762702400 10800, west 8780842800 14400, west 8794152000 10800,
    west 8812292400 14400, west 8825601600 10800, west 8844346800 14400, west 8857656000 10800,
    west 8875796400 14400, west 8889105600 10800, west 8907246000 14400, west 8920555200 10800,
    west 8938695600 14400, west 8952004800 10800, west 8970145200 14400, west 8983454400 10800,
    west 9002199600 14400, west 9014904000 10800, west 9033649200 14400, west 9046958400 10800,
    west 9065098800 14400, west 9078408000 10800, west 9096548400 14400, west 9109857600 10800,
    west 9127998000 14400, west 9141307200 10800, west 9159447600 14400, west 9172756800 10800,
    west 9191502000 14400, west 9204206400 10800, west 9222951600 14400, west 9236260800 10800,
    west 9254401200 14400, west 9267710400 10800, west 9285850800 14400, west 9299160000 10800,
    west 9317300400 14400, west 9330609600 10800, west 9349354800 14400, west 9362059200 10800,
    west 9380804400 14400, west 9394113600 10800, west 9412254000 14400, west 9425563200 10800,
    west 9443703600 14400, west 9457012800 10800]

/-- The zone America/Sao_Paulo. -/
def saoPaulo : Zone where
  name := "America/Sao_Paulo"
  first := -11188
  changes := [
    west 3597447988 10800, west 4157704800 7200, west 4173300000 10800, west 4189287600 7200,
    west 4204836000 10800, west 4730842800 7200, west 4742593200 10800, west 4762378800 7200,
    west 4772829600 10800, west 4793914800 7200, west 4804452000 10800, west 4825537200 7200,
    west 4833309600 10800, west 5169236400 7200, west 5180464800 10800, west 5209498800 7200,
    west 5214592800 10800, west 5235764400 7200, west 5243536800 10800, west 5264708400 7200,
    west 5275072800 10800, west 5296244400 7200, west 5306695200 10800, west 5864410800 7200,
    west 5875898400 10800, west 5895255600 7200, west 5904928800 10800, west 5926791600 7200,
    west 5935860000 10800, west 5957636400 7200, west 5966704800 10800, west 5989086000 7200,
    west 5999364000 10800, west 6021140400 7200, west 6031418400 10800, west 6052590000 7200,
    west 6062263200 10800, west 6084644400 7200, west 6093108000 10800, west 6115489200 7200,
    west 6126372000 10800, west 6146938800 7200, west 6157821600 10800, west 6178388400 7200,
    west 6188666400 10800, west 6209233200 7200, west 6220720800 10800, west 6240769200 7200,
    west 6253380000 10800, west 6272737200 7200, west 6284224800 10800, west 6303582000 7200,
    west 6316279200 10800, west 6335636400 7200, west 6347124000 10800, west 6367690800 7200,
    west 6378573600 10800, west 6400954800 7200, west 6410023200 10800, west 6431194800 7200,
    west 6441472800 10800, west 6464026800 7200, west 6473527200 10800, west 6494094000 7200,
    west 6504976800 10800, west 6527358000 7200, west 6537031200 10800, west 6556993200 7200,
    west 6567876000 10800, west 6589047600 7200, west 6599325600 10800, west 6620497200 7200,
    west 6631380000 10800, west 6651946800 7200, west 6662829600 10800, west 6683396400 7200,
    west 6694884000 10800, west 6715450800 7200, west 6725728800 10800, west 6746900400 7200,
    west 6757178400 10800, west 6778350000 7200, west 6789232800 10800, west 6809799600 7200,
    west 6820682400 10800, west 6841249200 7200, west 6852132000 10800, west 6872698800 7200,
    west 6883581600 10800, west 6905962800 7200, west 6915031200 10800]

/-- The zone America/St_Johns. -/
def stJohns : Zone where
  name := "America/St_Johns"
  first := -12652
  changes := [
    west 3700531852 9052, west 3714525052 12652, west 3732586252 9052, west 3749517052 12652,
    west 3766012252 9052, west 3774562252 12652, west 3797375452 9052, west 3813096652 12652,
    west 3828825052 9052, west 3844546252 12652, west 3860879452 9052, west 3875995852 12652,
    west 3892329052 9052, west 3907445452 12652, west 3923778652 9052, west 3938895052 12652,
    west 3955228252 9052, west 3970344652 12652, west 3986677852 9052, west 4002399052 12652,
    west 4018127452 9052, west 4033848652 12652, west 4050181852 9052, west 4065298252 12652,
    west 4081631452 9052, west 4096747852 12652, west 4113081052 9052, west 4128197452 12652,
    west 4144530652 9052, west 4159647052 12652, west 4175980252 9052, west 4191701452 12652,
    west 4208034652 9052, west 4223151052 12652, west 4239484252 9052, west 4254600652 12652,
    west 4267740652 12600, west 4270933800 9000, west 4286050200 12600, west 4302991800 9000,
    west 4315689000 12600, west 4334441400 9000, west 4347138600 12600, west 4365891000 9000,
    west 4378588200 12600, west 4397945400 9000, west 4410037800 12600, west 4429395000 9000,
    west 4442092200 12600, west 4460844600 9000, west 4473541800 12600, west 4492294200 9000,
    west 4599261000 12600, west 4618618200 9000, west 4631315400 12600, west 4650067800 9000,
    west 4662765000 12600, west 4681517400 9000, west 4694214600 12600, west 4712967000 9000,
    west 4725664200 12600, west 4745021400 9000, west 4757718600 12600, west 4775261400 9000,
    west 4788563400 12600, west 4806711000 9000, west 4820013000 12600, west 4838160600 9000,
    west 4851462600 12600, west 4869610200 9000, west 4882912200 12600, west 4901059800 9000,
    west 4914361800 12600, west 4933114200 9000, west 4946416200 12600, west 4964563800 9000,
    west 4977865800 12600, west 4996013400 9000, west 5009315400 12600, west 5027463000 9000,
    west 5040765000 12600, west 5058912600 9000, west 5075238600 12600, west 5090967000 9000,
    west 5106688200 12600, west 5122416600 9000, west 5138137800 12600, west 5153866200 9000,
    west 5169587400 12600, west 5185315800 9000, west 5201037000 12600, west 5216765400 9000,
    west 5233091400 12600, west 5248215000 9000, west 5264541000 12600, west 5280269400 9000,
    west 5295990600 12600, west 5311719000 9000, west 5327440200 12600, west 5343168600 9000,
    west 5358889800 12600, west 5374618200 9000, west 5390339400 12600, west 5406067800 9000,
    west 5422393800 12600, west 5438122200 9000, west 5453843400 12600, west 5469571800 9000,
    west 5485293000 12600, west 5501021400 9000, west 5516742600 12600, west 5532471000 9000,
    west 5548192200 12600, west 5563920600 9000, west 5580246600 12600, west 5595370200 9000,
    west 5611696200 12600, west 5627424600 9000, west 5643145800 12600, west 5658874200 9000,
    west 5674595400 12600, west 5690323800 9000, west 5706045000 12600, west 5721773400 9000,
    west 5737494600 12600, west 5753223000 9000, west 5769549000 12600, west 5784672600 9000,
    west 5800998600 12600, west 5816727000 9000, west 5832448200 12600, west 5848176600 9000,
    west 5863897800 12600, west 5879626200 9000, west 5895347400 12600, west 5909254260 9000,
    west 5926789860 12600, west 5940703860 5400, west 5958840660 12600, west 5972153460 9000,
    west 5990293860 12600, west 6003603060 9000, west 6021743460 12600, west 6035657460 9000,
    west 6053193060 12600, west 6067107060 9000, west 6084642660 12600, west 6098556660 9000,
    west 6116697060 12600, west 6130006260 9000, west 6148146660 12600, west 6161455860 9000,
    west 6179596260 12600, west 6193510260 9000, west 6211045860 12600, west 6224959860 9000,
    west 6242495460 12600, west 6256409460 9000, west 6273945060 12600, west 6287859060 9000,
    west 6305999460 12600, west 6319308660 9000, west 6337449060 12600, west 6350758260 9000,
    west 6368898660 12600, west 6382812660 9000, west 6400348260 12600, west 6414262260 9000,
    west 6431797860 12600, west 6445711860 9000, west 6463852260 12600, west 6477161460 9000,
    west 6495301860 12600, west 6508611060 9000, west 6526751460 12600, west 6538246260 9000,
    west 6558805860 12600, west 6569695860 9000, west 6590255460 12600, west 6601145460 9000,
    west 6621705060 12600, west 6633199860 9000, west 6653759460 12600, west 6664649460 9000,
    west 6685216200 12600, west 6696106200 9000, west 6716665800 12600, west 6727555800 9000,
    west 6748115400 12600, west 6759005400 9000, west 6779565000 12600, west 6790455000 9000,
    west 6811014600 12600, west 6822509400 9000, west 6843069000 12600, west 6853959000 9000,
    west 6874518600 12600, west 6885408600 9000, west 6905968200 12600, west 6916858200 9000,
    west 6937417800 12600, west 6948307800 9000, west 6968867400 12600, west 6980362200 9000,
    west 7000921800 12600, west 7011811800 9000, west 7032371400 12600, west 7043261400 9000,
    west 7063821000 12600, west 7074711000 9000, west 7095270600 12600, west 7106160600 9000,
    west 7126720200 12600, west 7137610200 9000, west 7158169800 12600, west 7169664600 9000,
    west 7190224200 12600, west 7201114200 9000, west 7221673800 12600, west 7232563800 9000,
    west 7253123400 12600, west 7264013400 9000, west 7284573000 12600, west 7295463000 9000,
    west 7316022600 12600, west 7327517400 9000, west 7348077000 12600, west 7358967000 9000,
    west 7379526600 12600, west 7390416600 9000, west 7410976200 12600, west 7421866200 9000,
    west 7442425800 12600, west 7453315800 9000, west 7473875400 12600, west 7484765400 9000,
    west 7505325000 12600, west 7516819800 9000, west 7537379400 12600, west 7548269400 9000,
    west 7568829000 12600, west 7579719000 9000, west 7600278600 12600, west 7611168600 9000,
    west 7631728200 12600, west 7642618200 9000, west 7663177800 12600, west 7674067800 9000,
    west 7694627400 12600, west 7706122200 9000, west 7726681800 12600, west 7737571800 9000,
    west 7758131400 12600, west 7769021400 9000, west 7789581000 12600, west 7800471000 9000,
    west 7821030600 12600, west 7831920600 9000, west 7852480200 12600, west 7863975000 9000,
    west 7884534600 12600, west 7895424600 9000, west 7915984200 12600, west 7926874200 9000,
    west 7947433800 12600, west 7958323800 9000, west 7978883400 12600, west 7989773400 9000,
    west 8010333000 12600, west 8021223000 9000, west 8041782600 12600, west 8053277400 9000,
    west 8073837000 12600, west 8084727000 9000, west 8105286600 12600, west 8116176600 9000,
    west 8136736200 12600, west 8147626200 9000, west 8168185800 12600, west 8179075800 9000,
    west 8199635400 12600, west 8211130200 9000, west 8231689800 12600, west 8242579800 9000,
    west 8263139400 12600, west 8274029400 9000, west 8294589000 12600, west 8305479000 9000,
    west 8326038600 12600, west 8336928600 9000, west 8357488200 12600, west 8368378200 9000,
    west 8388937800 12600, west 8400432600 9000, west 8420992200 12600, west 8431882200 9000,
    west 8452441800 12600, west 8463331800 9000, west 8483891400 12600, west 8494781400 9000,
    west 8515341000 12600, west 8526231000 9000, west 8546790600 12600, west 8557680600 9000,
    west 8578240200 12600, west 8589735000 9000, west 8610294600 12600, west 8621184600 9000,
    west 8641744200 12600, west 8652634200 9000, west 8673193800 12600, west 8684083800 9000,
    west 8704643400 12600, west 8715533400 9000, west 8736093000 12600, west 8747587800 9000,
    west 8768147400 12600, west 8779037400 9000, west 8799597000 12600, west 8810487000 9000,
    west 8831046600 12600, west 8841936600 9000, west 8862496200 12600, west 8873386200 9000,
    west 8893945800 12600, west 8904835800 9000, west 8925395400 12600, west 8936890200 9000,
    west 8957449800 12600, west 8968339800 9000, west 8988899400 12600, west 8999789400 9000,
    west 9020349000 12600, west 9031239000 9000, west 9051798600 12600, west 9062688600 9000,
    west 9083248200 12600, west 9094743000 9000, west 9115302600 12600, west 9126192600 9000,
    west 9146752200 12600, west 9157642200 9000, west 9178201800 12600, west 9189091800 9000,
    west 9209651400 12600, west 9220541400 9000, west 9241101000 12600, west 9251991000 9000,
    west 9272550600 12600, west 9284045400 9000, west 9304605000 12600, west 9315495000 9000,
    west 9336054600 12600, west 9346944600 9000, west 9367504200 12600, west 9378394200 9000,
    west 9398953800 12600, west 9409843800 9000, west 9430403400 12600, west 9441293400 9000,
    west 9461853000 12600]

end Timephrase.Zone
