import Timephrase.Zone.Basic

/-!
# Time zones of Asia

The offset changes of each zone, in seconds after the start of 1800, with the seconds east or west
that hold from then on.  Rules in force are written out to the end of 2099.
-/

namespace Timephrase.Zone

open ZoneChange (east west)

/-- The zone Asia/Bangkok. -/
def bangkok : Zone where
  name := "Asia/Bangkok"
  first := 24124
  changes := [
    east 3794577476 25200]

/-- The zone Asia/Dubai. -/
def dubai : Zone where
  name := "Asia/Dubai"
  first := 13272
  changes := [
    east 3786725928 14400]

/-- The zone Asia/Hong_Kong. -/
def hongKong : Zone where
  name := "Asia/Hong_Kong"
  first := 27402
  changes := [
    east 3307971600 28800, east 4463751600 32400, east 4473082800 30600, east 4480414200 32400,
    east 4603453200 28800, east 4616755200 32400, east 4636121400 28800, east 4647612600 32400,
    east 4667571000 28800, east 4680876600 32400, east 4696601400 28800, east 4709907000 32400,
    east 4728051000 28800, east 4741356600 32400, east 4759500600 28800, east 4772806200 32400,
    east 4790950200 28800, east 4804860600 32400, east 4823004600 28800, east 4836310200 32400,
    east 4854450600 28800, east 4866550200 32400, east 4885900200 28800, east 4897999800 32400,
    east 4917954600 28800, east 4929449400 32400, east 4949404200 28800, east 4961503800 32400,
    east 4980853800 28800, east 4992953400 32400, east 5012303400 28800, east 5024403000 32400,
    east 5043753000 28800, east 5055852600 32400, east 5075807400 28800, east 5087302200 32400,
    east 5107257000 28800, east 5118751800 32400, east 5138706600 28800, east 5150806200 32400,
    east 5170156200 28800, east 5182255800 32400, east 5201605800 28800, east 5216124600 32400,
    east 5231845800 28800, east 5247574200 32400, east 5263295400 28800, east 5279023800 32400,
    east 5295349800 28800, east 5311078200 32400, east 5326799400 28800, east 5342527800 32400,
    east 5358249000 28800, east 5373977400 32400, east 5389698600 28800, east 5405427000 32400,
    east 5421148200 28800, east 5436876600 32400, east 5453202600 28800, east 5468931000 32400,
    east 5484652200 28800, east 5490703800 32400, east 5516101800 28800, east 5531830200 32400,
    east 5547551400 28800, east 5563279800 32400, east 5579001000 28800, east 5660047800 32400,
    east 5673954600 28800]

/-- The zone Asia/Jakarta. -/
def jakarta : Zone where
  name := "Asia/Jakarta"
  first := 25632
  changes := [
    east 3912943200 26400, east 4191756000 27000, east 4488021000 32400, east 4598607600 27000,
    east 4680779400 28800, east 4743849600 27000, east 5175246600 25200]

/-- The zone Asia/Jerusalem. -/
def jerusalem : Zone where
  name := "Asia/Jerusalem"
  first := 8454
  changes := [
    east 2524513146 8440, east 3723658760 7200, east 4431024000 10800, east 4441564800 7200,
    east 4445625600 10800, east 4507315200 7200, east 4520361600 10800, east 4538851200 7200,
    east 4551984000 10800, east 4570473600 7200, east 4584816000 10800, east 4602009600 7200,
    east 4616352000 10800, east 4633545600 7200, east 4682707200 14400, east 4691433600 10800,
    east 4696704000 7200, east 4712342400 10800, east 4728240000 7200, east 4742582400 10800,
    east 4755715200 7200, east 4772822400 10800, east 4792176000 7200, east 4806086400 10800,
    east 4821811200 7200, east 4836931200 10800, east 4850236800 7200, east 4873824000 10800,
    east 4881686400 7200, east 4905273600 10800, east 4913136000 7200, east 4936118400 10800,
    east 4946400000 7200, east 4964544000 10800, east 4977244800 7200, east 5507042400 10800,
    east 5515506000 7200, east 5531839200 10800, east 5543326800 7200, east 5698764000 10800,
    east 5702392800 7200, east 5817304800 10800, east 5826981600 7200, east 5846940000 10800,
    east 5859032400 7200, east 5881413600 10800, east 5891086800 7200, east 5910098400 10800,
    east 5923141200 7200, east 5941288800 10800, east 5953986000 7200, east 5974552800 10800,
    east 5985435600 7200, east 6002978400 10800, east 6016280400 7200, east 6034428000 10800,
    east 6048334800 7200, east 6066482400 10800, east 6080389200 7200, east 6098364000 10800,
    east 6111838800 7200, east 6129813600 10800, east 6142683600 7200, east 6161263200 10800,
    east 6174738000 7200, east 6191503200 10800, east 6207483600 7200, east 6223557600 10800,
    east 6238846800 7200, east 6255007200 10800, east 6269691600 7200, east 6287673600 10800,
    east 6300975600 7200, east 6320332800 10800, east 6335445600 7200, east 6351433200 10800,
    east 6365944800 7200, east 6382018800 10800, east 6398604000 7200, east 6413468400 10800,
    east 6429794400 7200, east 6445954800 10800, east 6460466400 7200, east 6476976000 10800,
    east 6493474800 7200, east 6508425600 10800, east 6524319600 7200, east 6539875200 10800,
    east 6554559600 7200, east 6571324800 10800, east 6587823600 7200, east 6602774400 10800,
    east 6618668400 7200, east 6634224000 10800, east 6648908400 7200, east 6666278400 10800,
    east 6682172400 7200, east 6697728000 10800, east 6713017200 7200, east 6729177600 10800,
    east 6747490800 7200, east 6760627200 10800, east 6778940400 7200, east 6792076800 10800,
    east 6810390000 7200, east 6823526400 10800, east 6842444400 7200, east 6854976000 10800,
    east 6873894000 7200, east 6886425600 10800, east 6905343600 7200, east 6918480000 10800,
    east 6936793200 7200, east 6949929600 10800, east 6968242800 7200, east 6981379200 10800,
    east 7000297200 7200, east 7012828800 10800, east 7031746800 7200, east 7044278400 10800,
    east 7063196400 7200, east 7076332800 10800, east 7094646000 7200, east 7107782400 10800,
    east 7126095600 7200, east 7139232000 10800, east 7157545200 7200, east 7170681600 10800,
    east 7189599600 7200, east 7202131200 10800, east 7221049200 7200, east 7233580800 10800,
    east 7252498800 7200, east 7265635200 10800, east 7283948400 7200, east 7297084800 10800,
    east 7315398000 7200, east 7328534400 10800, east 7347452400 7200, east 7359984000 10800,
    east 7378902000 7200, east 7391433600 10800, east 7410351600 7200, east 7422883200 10800,
    east 7441801200 7200, east 7454937600 10800, east 7473250800 7200, east 7486387200 10800,
    east 7504700400 7200, east 7517836800 10800, east 7536754800 7200, east 7549286400 10800,
    east 7568204400 7200, east 7580736000 10800, east 7599654000 7200, east 7612790400 10800,
    east 7631103600 7200, east 7644240000 10800, east 7662553200 7200, east 7675689600 10800,
    east 7694002800 7200, east 7707139200 10800, east 7726057200 7200, east 7738588800 10800,
    east 7757506800 7200, east 7770038400 10800, east 7788956400 7200, east 7802092800 10800,
    east 7820406000 7200, east 7833542400 10800, east 7851855600 7200, east 7864992000 10800,
    east 7883910000 7200, east 7896441600 10800, east 7915359600 7200, east 7927891200 10800,
    east 7946809200 7200, east 7959945600 10800, east 7978258800 7200, east 7991395200 10800,
    east 8009708400 7200, east 8022844800 10800, east 8041158000 7200, east 8054294400 10800,
    east 8073212400 7200, east 8085744000 10800, east 8104662000 7200, east 8117193600 10800,
    east 8136111600 7200, east 8149248000 10800, east 8167561200 7200, east 8180697600 10800,
    east 8199010800 7200, east 8212147200 10800, east 8231065200 7200, east 8243596800 10800,
    east 8262514800 7200, east 8275046400 10800, east 8293964400 7200, east 8306496000 10800,
    east 8325414000 7200, east 8338550400 10800, east 8356863600 7200, east 8370000000 10800,
    east 8388313200 7200, east 8401449600 10800, east 8420367600 7200, east 8432899200 10800,
    east 8451817200 7200, east 8464348800 10800, east 8483266800 7200, east 8496403200 10800,
    east 8514716400 7200, east 8527852800 10800, east 8546166000 7200, east 8559302400 10800,
    east 8577615600 7200, east 8590752000 10800, east 8609670000 7200, east 8622201600 10800,
    east 8641119600 7200, east 8653651200 10800, east 8672569200 7200, east 8685705600 10800,
    east 8704018800 7200, east 8717155200 10800, east 8735468400 7200, east 8748604800 10800,
    east 8767522800 7200, east 8780054400 10800, east 8798972400 7200, east 8811504000 10800,
    east 8830422000 7200, east 8843558400 10800, east 8861871600 7200, east 8875008000 10800,
    east 8893321200 7200, east 8906457600 10800, east 8924770800 7200, east 8937907200 10800,
    east 8956825200 7200, east 8969356800 10800, east 8988274800 7200, east 9000806400 10800,
    east 9019724400 7200, east 9032860800 10800, east 9051174000 7200, east 9064310400 10800,
    east 9082623600 7200, east 9095760000 10800, east 9114678000 7200, east 9127209600 10800,
    east 9146127600 7200, east 9158659200 10800, east 9177577200 7200, east 9190108800 10800,
    east 9209026800 7200, east 9222163200 10800, east 9240476400 7200, east 9253612800 10800,
    east 9271926000 7200, east 9285062400 10800, east 9303980400 7200, east 9316512000 10800,
    east 9335430000 7200, east 9347961600 10800, east 9366879600 7200, east 9380016000 10800,
    east 9398329200 7200, east 9411465600 10800, east 9429778800 7200, east 9442915200 10800,
    east 9461228400 7200]

/-- The zone Asia/Kabul. -/
def kabul : Zone where
  name := "Asia/Kabul"
  first := 16608
  changes := [
    east 2840124192 14400, east 4575729600 16200]

/-- The zone Asia/Karachi. -/
def karachi : Zone where
  name := "Asia/Karachi"
  first := 16092
  changes := [
    east 3376495908 19800, east 4502025000 23400, east 4600517400 19800, east 4788527400 18000,
    east 6382782000 21600, east 6398503200 18000, east 6576922800 21600, east 6590138400 18000,
    east 6604398000 21600, east 6621674400 18000]

/-- The zone Asia/Kathmandu. -/
def kathmandu : Zone where
  name := "Asia/Kathmandu"
  first := 20476
  changes := [
    east 3786718724 19800, east 5869564200 20700]

/-- The zone Asia/Kolkata. -/
def kolkata : Zone where
  name := "Asia/Kolkata"
  first := 21208
  changes := [
    east 1719425192 21200, east 2208967600 19270, east 3344956730 19800, east 4473081000 23400,
    east 4492603800 19800, east 4502025000 23400, east 4600517400 19800]

/-- The zone Asia/Manila. -/
def manila : Zone where
  name := "Asia/Manila"
  first := -57368
  changes := [
    east 1420041368 29032, east 3145579200 28800, east 4317984000 32400, east 4324546800 28800,
    east 4479638400 32400, east 4604569200 28800, east 4868438400 32400, east 4873100400 28800,
    east 5592988800 32400, east 5608364400 28800, east 6007881600 32400, east 6013839600 28800]

/-- The zone Asia/Seoul. -/
def seoul : Zone where
  name := "Asia/Seoul"
  first := 30472
  changes := [
    east 3415879928 30600, east 3534247800 32400, east 4683452400 36000, east 4692434400 32400,
    east 4709890800 36000, east 4723797600 32400, east 4741254000 36000, east 4755247200 32400,
    east 4775814000 36000, east 4786696800 32400, east 4866534000 30600, east 4901959800 34200,
    east 4912929000 30600, east 4934878200 34200, east 4946365800 30600, east 4965118200 34200,
    east 4977210600 30600, east 4996567800 34200, east 5008660200 30600, east 5028017400 34200,
    east 5040109800 30600, east 5059467000 34200, east 5071559400 30600, east 5099729400 32400,
    east 5912240400 36000, east 5925546000 32400, east 5943690000 36000, east 5956995600 32400]

/-- The zone Asia/Singapore. -/
def singapore : Zone where
  name := "Asia/Singapore"
  first := 24925
  changes := [
    east 3326461475 25200, east 4197027600 26400, east 4470482400 27000, east 4484997000 32400,
    east 4597657200 27000, east 5743324800 28800]

/-- The zone Asia/Tehran. -/
def tehran : Zone where
  name := "Asia/Tehran"
  first := 12344
  changes := [
    east 4274195656 12600, east 5592483000 16200, east 5610886200 14400, east 5624280000 18000,
    east 5635771200 14400, east 5644238400 12600, east 5661261000 16200, east 5671193400 12600,
    east 5687094600 16200, east 5703161400 12600, east 6037878600 16200, east 6050143800 12600,
    east 6065872200 16200, east 6081766200 12600, east 6097408200 16200, east 6113302200 12600,
    east 6128944200 16200, east 6144838200 12600, east 6160480200 16200, east 6176374200 12600,
    east 6192016200 16200, east 6207910200 12600, east 6223638600 16200, east 6239532600 12600,
    east 6255174600 16200, east 6271068600 12600, east 6286710600 16200, east 6302604600 12600,
    east 6318246600 16200, east 6334140600 12600, east 6349869000 16200, east 6365763000 12600,
    east 6381405000 16200, east 6397299000 12600, east 6412941000 16200, east 6428835000 12600,
    east 6444477000 16200, east 6460371000 12600, east 6476099400 16200, east 6491993400 12600,
    east 6570707400 16200, east 6586601400 12600, east 6602329800 16200, east 6618223800 12600,
    east 6633865800 16200, east 6649759800 12600, east 6665401800 16200, east 6681295800 12600,
    east 6696937800 16200, east 6712831800 12600, east 6728560200 16200, east 6744454200 12600,
    east 6760096200 16200, east 6775990200 12600, east 6791632200 16200, east 6807526200 12600,
    east 6823168200 16200, east 6839062200 12600, east 6854790600 16200, east 6870684600 12600,
    east 6886326600 16200, east 6902220600 12600, east 6917862600 16200, east 6933756600 12600,
    east 6949398600 16200, east 6965292600 12600, east 6981021000 16200, east 6996915000 12600,
    east 7012557000 16200, east 7028451000 12600]

/-- The zone Asia/Tokyo. -/
def tokyo : Zone where
  name := "Asia/Tokyo"
  first := 33539
  changes := [
    east 2776950000 32400, east 4680860400 36000, east 4692351600 32400, east 4709890800 36000,
    east 4723801200 32400, east 4744364400 36000, east 4755250800 32400, east 4775814000 36000,
    east 4786700400 32400]

end Timephrase.Zone
