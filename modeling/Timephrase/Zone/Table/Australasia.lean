import Timephrase.Zone.Basic

/-!
# Time zones of Australia and the Pacific

The offset changes of each zone, in seconds after the start of 1800, with the seconds east or west
that hold from then on.  Rules in force are written out to the end of 2099.
-/

namespace Timephrase.Zone

open ZoneChange (east west)

/-- The zone Australia/Adelaide. -/
def adelaide : Zone where
  name := "Australia/Adelaide"
  first := 33260
  changes := [
    east 3000552340 32400, east 3134473200 34200, east 3692104200 37800, east 3699275400 34200,
    east 4481022600 37800, east 4488539400 34200, east 4504264200 37800, east 4519989000 34200,
    east 4536318600 37800, east 4551438600 34200, east 5422350600 37800, east 5432632200 34200,
    east 5453800200 37800, east 5464686600 34200, east 5485249800 37800, east 5496136200 34200,
    east 5516699400 37800, east 5527585800 34200, east 5548149000 37800, east 5559640200 34200,
    east 5580203400 37800, east 5591089800 34200, east 5611653000 37800, east 5622539400 34200,
    east 5643102600 37800, east 5653989000 34200, east 5674552200 37800, east 5685438600 34200,
    east 5706001800 37800, east 5716888200 34200, east 5737451400 37800, east 5748942600 34200,
    east 5769505800 37800, east 5780392200 34200, east 5800955400 37800, east 5811841800 34200,
    east 5832405000 37800, east 5843291400 34200, east 5863854600 37800, east 5875950600 34200,
    east 5894699400 37800, east 5907400200 34200, east 5926753800 37800, east 5939454600 34200,
    east 5958808200 37800, east 5970904200 34200, east 5990257800 37800, east 6002353800 34200,
    east 6021707400 37800, east 6032593800 34200, east 6053157000 37800, east 6065857800 34200,
    east 6084606600 37800, east 6096097800 34200, east 6116661000 37800, east 6128757000 34200,
    east 6148110600 37800, east 6160811400 34200, east 6179560200 37800, east 6192865800 34200,
    east 6211009800 37800, east 6224315400 34200, east 6242459400 37800, east 6255765000 34200,
    east 6273909000 37800, east 6287214600 34200, east 6305963400 37800, east 6318664200 34200,
    east 6337413000 37800, east 6350113800 34200, east 6368862600 37800, east 6382168200 34200,
    east 6400312200 37800, east 6413617800 34200, east 6431761800 37800, east 6445067400 34200,
    east 6463816200 37800, east 6476517000 34200, east 6495265800 37800, east 6508571400 34200,
    east 6526715400 37800, east 6539416200 34200, east 6558165000 37800, east 6572075400 34200,
    east 6587800200 37800, east 6603525000 34200, east 6619249800 37800, east 6634974600 34200,
    east 6650699400 37800, east 6666424200 34200, east 6682149000 37800, east 6697873800 34200,
    east 6714203400 37800, east 6729928200 34200, east 6745653000 37800, east 6761377800 34200,
    east 6777102600 37800, east 6792827400 34200, east 6808552200 37800, east 6824277000 34200,
    east 6840001800 37800, east 6855726600 34200, east 6871451400 37800, east 6887176200 34200,
    east 6903505800 37800, east 6919230600 34200, east 6934955400 37800, east 6950680200 34200,
    east 6966405000 37800, east 6982129800 34200, east 6997854600 37800, east 7013579400 34200,
    east 7029304200 37800, east 7045029000 34200, east 7060753800 37800, east 7077083400 34200,
    east 7092808200 37800, east 7108533000 34200, east 7124257800 37800, east 7139982600 34200,
    east 7155707400 37800, east 7171432200 34200, east 7187157000 37800, east 7202881800 34200,
    east 7218606600 37800, east 7234331400 34200, east 7250661000 37800, east 7266385800 34200,
    east 7282110600 37800, east 7297835400 34200, east 7313560200 37800, east 7329285000 34200,
    east 7345009800 37800, east 7360734600 34200, east 7376459400 37800, east 7392184200 34200,
    east 7407909000 37800, east 7423633800 34200, east 7439963400 37800, east 7455688200 34200,
    east 7471413000 37800, east 7487137800 34200, east 7502862600 37800, east 7518587400 34200,
    east 7534312200 37800, east 7550037000 34200, east 7565761800 37800, east 7581486600 34200,
    east 7597816200 37800, east 7613541000 34200, east 7629265800 37800, east 7644990600 34200,
    east 7660715400 37800, east 7676440200 34200, east 7692165000 37800, east 7707889800 34200,
    east 7723614600 37800, east 7739339400 34200, east 7755064200 37800, east 7770789000 34200,
    east 7787118600 37800, east 7802843400 34200, east 7818568200 37800, east 7834293000 34200,
    east 7850017800 37800, east 7865742600 34200, east 7881467400 37800, east 7897192200 34200,
    east 7912917000 37800, east 7928641800 34200, east 7944366600 37800, east 7960696200 34200,
    east 7976421000 37800, east 7992145800 34200, east 8007870600 37800, east 8023595400 34200,
    east 8039320200 37800, east 8055045000 34200, east 8070769800 37800, east 8086494600 34200,
    east 8102219400 37800, east 8117944200 34200, east 8134273800 37800, east 8149998600 34200,
    east 8165723400 37800, east 8181448200 34200, east 8197173000 37800, east 8212897800 34200,
    east 8228622600 37800, east 8244347400 34200, east 8260072200 37800, east 8275797000 34200,
    east 8291521800 37800, east 8307246600 34200, east 8323576200 37800, east 8339301000 34200,
    east 8355025800 37800, east 8370750600 34200, east 8386475400 37800, east 8402200200 34200,
    east 8417925000 37800, east 8433649800 34200, east 8449374600 37800, east 8465099400 34200,
    east 8481429000 37800, east 8497153800 34200, east 8512878600 37800, east 8528603400 34200,
    east 8544328200 37800, east 8560053000 34200, east 8575777800 37800, east 8591502600 34200,
    east 8607227400 37800, east 8622952200 34200, east 8638677000 37800, east 8654401800 34200,
    east 8670731400 37800, east 8686456200 34200, east 8702181000 37800, east 8717905800 34200,
    east 8733630600 37800, east 8749355400 34200, east 8765080200 37800, east 8780805000 34200,
    east 8796529800 37800, east 8812254600 34200, east 8827979400 37800, east 8844309000 34200,
    east 8860033800 37800, east 8875758600 34200, east 8891483400 37800, east 8907208200 34200,
    east 8922933000 37800, east 8938657800 34200, east 8954382600 37800, east 8970107400 34200,
    east 8985832200 37800, east 9001557000 34200, east 9017886600 37800, east 9033611400 34200,
    east 9049336200 37800, east 9065061000 34200, east 9080785800 37800, east 9096510600 34200,
    east 9112235400 37800, east 9127960200 34200, east 9143685000 37800, east 9159409800 34200,
    east 9175134600 37800, east 9190859400 34200, east 9207189000 37800, east 9222913800 34200,
    east 9238638600 37800, east 9254363400 34200, east 9270088200 37800, east 9285813000 34200,
    east 9301537800 37800, east 9317262600 34200, east 9332987400 37800, east 9348712200 34200,
    east 9365041800 37800, east 9380766600 34200, east 9396491400 37800, east 9412216200 34200,
    east 9427941000 37800, east 9443665800 34200, east 9459390600 37800]

/-- The zone Australia/Brisbane. -/
def brisbane : Zone where
  name := "Australia/Brisbane"
  first := 36728
  changes := [
    east 2997870472 36000, east 3692102400 39600, east 3699273600 36000, east 4481020800 39600,
    east 4488537600 36000, east 4504262400 39600, east 4519987200 36000, east 4536316800 39600,
    east 4551436800 36000, east 5422348800 39600, east 5432630400 36000, east 5990256000 39600,
    east 6001142400 36000, east 6021705600 39600, east 6032592000 36000, east 6053155200 39600,
    east 6064041600 36000]

/-- The zone Australia/Darwin. -/
def darwin : Zone where
  name := "Australia/Darwin"
  first := 31400
  changes := [
    east 3000554200 32400, east 3134473200 34200, east 3692104200 37800, east 3699275400 34200,
    east 4481022600 37800, east 4488539400 34200, east 4504264200 37800, east 4519989000 34200,
    east 4536318600 37800, east 4551438600 34200]

/-- The zone Australia/Perth. -/
def perth : Zone where
  name := "Australia/Perth"
  first := 27804
  changes := [
    east 3026736996 28800, east 3692109600 32400, east 3699280800 28800, east 4481028000 32400,
    east 4488544800 28800, east 4504269600 32400, east 4519994400 28800, east 5516704800 32400,
    east 5527591200 28800, east 5800960800 32400, east 5811847200 28800, east 6054976800 32400,
    east 6064048800 28800, east 6529744800 32400, east 6539421600 28800, east 6558170400 32400,
    east 6571476000 28800, east 6589620000 32400, east 6602925600 28800]

/-- The zone Australia/Sydney. -/
def sydney : Zone where
  name := "Australia/Sydney"
  first := 36292
  changes := [
    east 3000549308 36000, east 3692102400 39600, east 3699273600 36000, east 4481020800 39600,
    east 4488537600 36000, east 4504262400 39600, east 4519987200 36000, east 4536316800 39600,
    east 4551436800 36000, east 5422348800 39600, east 5432630400 36000, east 5453798400 39600,
    east 5464684800 36000, east 5485248000 39600, east 5496134400 36000, east 5516697600 39600,
    east 5527584000 36000, east 5548147200 39600, east 5559638400 36000, east 5580201600 39600,
    east 5591088000 36000, east 5611651200 39600, east 5622537600 36000, east 5643100800 39600,
    east 5653987200 36000, east 5674550400 39600, east 5685436800 36000, east 5706000000 39600,
    east 5716886400 36000, east 5737449600 39600, east 5751360000 36000, east 5769504000 39600,
    east 5780390400 36000, east 5800953600 39600, east 5811840000 36000, east 5832403200 39600,
    east 5843289600 36000, east 5863852800 39600, east 5875948800 36000, east 5894697600 39600,
    east 5907398400 36000, east 5926752000 39600, east 5939452800 36000, east 5958806400 39600,
    east 5970902400 36000, east 5990256000 39600, east 6001142400 36000, east 6021705600 39600,
    east 6032592000 36000, east 6053155200 39600, east 6064041600 36000, east 6084604800 39600,
    east 6096096000 36000, east 6116659200 39600, east 6127545600 36000, east 6148108800 39600,
    east 6158995200 36000, east 6179558400 39600, east 6192864000 36000, east 6211008000 39600,
    east 6224313600 36000, east 6242457600 39600, east 6255763200 36000, east 6273907200 39600,
    east 6287212800 36000, east 6305961600 39600, east 6318662400 36000, east 6331968000 39600,
    east 6350112000 36000, east 6368860800 39600, east 6382166400 36000, east 6400310400 39600,
    east 6413616000 36000, east 6431760000 39600, east 6445065600 36000, east 6463814400 39600,
    east 6476515200 36000, east 6495264000 39600, east 6508569600 36000, east 6526713600 39600,
    east 6539414400 36000, east 6558163200 39600, east 6572073600 36000, east 6587798400 39600,
    east 6603523200 36000, east 6619248000 39600, east 6634972800 36000, east 6650697600 39600,
    east 6666422400 36000, east 6682147200 39600, east 6697872000 36000, east 6714201600 39600,
    east 6729926400 36000, east 6745651200 39600, east 6761376000 36000, east 6777100800 39600,
    east 6792825600 36000, east 6808550400 39600, east 6824275200 36000, east 6840000000 39600,
    east 6855724800 36000, east 6871449600 39600, east 6887174400 36000, east 6903504000 39600,
    east 6919228800 36000, east 6934953600 39600, east 6950678400 36000, east 6966403200 39600,
    east 6982128000 36000, east 6997852800 39600, east 7013577600 36000, east 7029302400 39600,
    east 7045027200 36000, east 7060752000 39600, east 7077081600 36000, east 7092806400 39600,
    east 7108531200 36000, east 7124256000 39600, east 7139980800 36000, east 7155705600 39600,
    east 7171430400 36000, east 7187155200 39600, east 7202880000 36000, east 7218604800 39600,
    east 7234329600 36000, east 7250659200 39600, east 7266384000 36000, east 7282108800 39600,
    east 7297833600 36000, east 7313558400 39600, east 7329283200 36000, east 7345008000 39600,
    east 7360732800 36000, east 7376457600 39600, east 7392182400 36000, east 7407907200 39600,
    east 7423632000 36000, east 7439961600 39600, east 7455686400 36000, east 7471411200 39600,
    east 7487136000 36000, east 7502860800 39600, east 7518585600 36000, east 7534310400 39600,
    east 7550035200 36000, east 7565760000 39600, east 7581484800 36000, east 7597814400 39600,
    east 7613539200 36000, east 7629264000 39600, east 7644988800 36000, east 7660713600 39600,
    east 7676438400 36000, east 7692163200 39600, east 7707888000 36000, east 7723612800 39600,
    east 7739337600 36000, east 7755062400 39600, east 7770787200 36000, east 7787116800 39600,
    east 7802841600 36000, east 7818566400 39600, east 7834291200 36000, east 7850016000 39600,
    east 7865740800 36000, east 7881465600 39600, east 7897190400 36000, east 7912915200 39600,
    east 7928640000 36000, east 7944364800 39600, east 7960694400 36000, east 7976419200 39600,
    east 7992144000 36000, east 8007868800 39600, east 8023593600 36000, east 8039318400 39600,
    east 8055043200 36000, east 8070768000 39600, east 8086492800 36000, east 8102217600 39600,
    east 8117942400 36000, east 8134272000 39600, east 8149996800 36000, east 8165721600 39600,
    east 8181446400 36000, east 8197171200 39600, east 8212896000 36000, east 8228620800 39600,
    east 8244345600 36000, east 8260070400 39600, east 8275795200 36000, east 8291520000 39600,
    east 8307244800 36000, east 8323574400 39600, east 8339299200 36000, east 8355024000 39600,
    east 8370748800 36000, east 8386473600 39600, east 8402198400 36000, east 8417923200 39600,
    east 8433648000 36000, east 8449372800 39600, east 8465097600 36000, east 8481427200 39600,
    east 8497152000 36000, east 8512876800 39600, east 8528601600 36000, east 8544326400 39600,
    east 8560051200 36000, east 8575776000 39600, east 8591500800 36000, east 8607225600 39600,
    east 8622950400 36000, east 8638675200 39600, east 8654400000 36000, east 8670729600 39600,
    east 8686454400 36000, east 8702179200 39600, east 8717904000 36000, east 8733628800 39600,
    east 8749353600 36000, east 8765078400 39600, east 8780803200 36000, east 8796528000 39600,
    east 8812252800 36000, east 8827977600 39600, east 8844307200 36000, east 8860032000 39600,
    east 8875756800 36000, east 8891481600 39600, east 8907206400 36000, east 8922931200 39600,
    east 8938656000 36000, east 8954380800 39600, east 8970105600 36000, east 8985830400 39600,
    east 9001555200 36000, east 9017884800 39600, east 9033609600 36000, east 9049334400 39600,
    east 9065059200 36000, east 9080784000 39600, east 9096508800 36000, east 9112233600 39600,
    east 9127958400 36000, east 9143683200 39600, east 9159408000 36000, east 9175132800 39600,
    east 9190857600 36000, east 9207187200 39600, east 9222912000 36000, east 9238636800 39600,
    east 9254361600 36000, east 9270086400 39600, east 9285811200 36000, east 9301536000 39600,
    east 9317260800 36000, east 9332985600 39600, east 9348710400 36000, east 9365040000 39600,
    east 9380764800 36000, east 9396489600 39600, east 9412214400 36000, east 9427939200 39600,
    east 9443664000 36000, east 9459388800 39600]

/-- The zone Pacific/Auckland. -/
def auckland : Zone where
  name := "Pacific/Auckland"
  first := 41944
  changes := [
    east 2172226856 41400, east 4034327400 45000, east 4044605400 41400, east 4063962600 43200,
    east 4077266400 41400, east 4095412200 43200, east 4108716000 41400, east 4126861800 43200,
    east 4140165600 41400, east 4158311400 43200, east 4172220000 41400, east 4189761000 43200,
    east 4203669600 41400, east 4221210600 43200, east 4238748000 41400, east 4252055400 43200,
    east 4270197600 41400, east 4283505000 43200, east 4301647200 41400, east 4314954600 43200,
    east 4333096800 41400, east 4346404200 43200, east 4364546400 41400, east 4377853800 43200,
    east 4396600800 41400, east 4409303400 43200, east 4428050400 41400, east 4441357800 43200,
    east 5517295200 46800, east 5526972000 43200, east 5548140000 46800, east 5559631200 43200,
    east 5580194400 46800, east 5591080800 43200, east 5611644000 46800, east 5622530400 43200,
    east 5643093600 46800, east 5653980000 43200, east 5674543200 46800, east 5685429600 43200,
    east 5705992800 46800, east 5716879200 43200, east 5737442400 46800, east 5748933600 43200,
    east 5769496800 46800, east 5780383200 43200, east 5800946400 46800, east 5811832800 43200,
    east 5832396000 46800, east 5843282400 43200, east 5863845600 46800, east 5874732000 43200,
    east 5895295200 46800, east 5906181600 43200, east 5926744800 46800, east 5938236000 43200,
    east 5958799200 46800, east 5969685600 43200, east 5988434400 46800, east 6002344800 43200,
    east 6019884000 46800, east 6033794400 43200, east 6051333600 46800, east 6065244000 43200,
    east 6082783200 46800, east 6097298400 43200, east 6114232800 46800, east 6128748000 43200,
    east 6145682400 46800, east 6160197600 43200, east 6177132000 46800, east 6191647200 43200,
    east 6209186400 46800, east 6223096800 43200, east 6240636000 46800, east 6254546400 43200,
    east 6272085600 46800, east 6286600800 43200, east 6303535200 46800, east 6318050400 43200,
    east 6334984800 46800, east 6349500000 43200, east 6367039200 46800, east 6380949600 43200,
    east 6398488800 46800, east 6412399200 43200, east 6429938400 46800, east 6444453600 43200,
    east 6461388000 46800, east 6475903200 43200, east 6492837600 46800, east 6507352800 43200,
    east 6524287200 46800, east 6538802400 43200, east 6555736800 46800, east 6572066400 43200,
    east 6587186400 46800, east 6603516000 43200, east 6618636000 46800, east 6634965600 43200,
    east 6650085600 46800, east 6666415200 43200, east 6681535200 46800, east 6697864800 43200,
    east 6713589600 46800, east 6729919200 43200, east 6745039200 46800, east 6761368800 43200,
    east 6776488800 46800, east 6792818400 43200, east 6807938400 46800, east 6824268000 43200,
    east 6839388000 46800, east 6855717600 43200, east 6870837600 46800, east 6887167200 43200,
    east 6902892000 46800, east 6919221600 43200, east 6934341600 46800, east 6950671200 43200,
    east 6965791200 46800, east 6982120800 43200, east 6997240800 46800, east 7013570400 43200,
    east 7028690400 46800, east 7045020000 43200, east 7060140000 46800, east 7077074400 43200,
    east 7092194400 46800, east 7108524000 43200, east 7123644000 46800, east 7139973600 43200,
    east 7155093600 46800, east 7171423200 43200, east 7186543200 46800, east 7202872800 43200,
    east 7217992800 46800, east 7234322400 43200, east 7250047200 46800, east 7266376800 43200,
    east 7281496800 46800, east 7297826400 43200, east 7312946400 46800, east 7329276000 43200,
    east 7344396000 46800, east 7360725600 43200, east 7375845600 46800, east 7392175200 43200,
    east 7407295200 46800, east 7423624800 43200, east 7439349600 46800, east 7455679200 43200,
    east 7470799200 46800, east 7487128800 43200, east 7502248800 46800, east 7518578400 43200,
    east 7533698400 46800, east 7550028000 43200, east 7565148000 46800, east 7581477600 43200,
    east 7597202400 46800, east 7613532000 43200, east 7628652000 46800, east 7644981600 43200,
    east 7660101600 46800, east 7676431200 43200, east 7691551200 46800, east 7707880800 43200,
    east 7723000800 46800, east 7739330400 43200, east 7754450400 46800, east 7770780000 43200,
    east 7786504800 46800, east 7802834400 43200, east 7817954400 46800, east 7834284000 43200,
    east 7849404000 46800, east 7865733600 43200, east 7880853600 46800, east 7897183200 43200,
    east 7912303200 46800, east 7928632800 43200, east 7943752800 46800, east 7960687200 43200,
    east 7975807200 46800, east 7992136800 43200, east 8007256800 46800, east 8023586400 43200,
    east 8038706400 46800, east 8055036000 43200, east 8070156000 46800, east 8086485600 43200,
    east 8101605600 46800, east 8117935200 43200, east 8133660000 46800, east 8149989600 43200,
    east 8165109600 46800, east 8181439200 43200, east 8196559200 46800, east 8212888800 43200,
    east 8228008800 46800, east 8244338400 43200, east 8259458400 46800, east 8275788000 43200,
    east 8290908000 46800, east 8307237600 43200, east 8322962400 46800, east 8339292000 43200,
    east 8354412000 46800, east 8370741600 43200, east 8385861600 46800, east 8402191200 43200,
    east 8417311200 46800, east 8433640800 43200, east 8448760800 46800, east 8465090400 43200,
    east 8480815200 46800, east 8497144800 43200, east 8512264800 46800, east 8528594400 43200,
    east 8543714400 46800, east 8560044000 43200, east 8575164000 46800, east 8591493600 43200,
    east 8606613600 46800, east 8622943200 43200, east 8638063200 46800, east 8654392800 43200,
    east 8670117600 46800, east 8686447200 43200, east 8701567200 46800, east 8717896800 43200,
    east 8733016800 46800, east 8749346400 43200, east 8764466400 46800, east 8780796000 43200,
    east 8795916000 46800, east 8812245600 43200, east 8827365600 46800, east 8844300000 43200,
    east 8859420000 46800, east 8875749600 43200, east 8890869600 46800, east 8907199200 43200,
    east 8922319200 46800, east 8938648800 43200, east 8953768800 46800, east 8970098400 43200,
    east 8985218400 46800, east 9001548000 43200, east 9017272800 46800, east 9033602400 43200,
    east 9048722400 46800, east 9065052000 43200, east 9080172000 46800, east 9096501600 43200,
    east 9111621600 46800, east 9127951200 43200, east 9143071200 46800, east 9159400800 43200,
    east 9174520800 46800, east 9190850400 43200, east 9206575200 46800, east 9222904800 43200,
    east 9238024800 46800, east 9254354400 43200, east 9269474400 46800, east 9285804000 43200,
    east 9300924000 46800, east 9317253600 43200, east 9332373600 46800, east 9348703200 43200,
    east 9364428000 46800, east 9380757600 43200, east 9395877600 46800, east 9412207200 43200,
    east 9427327200 46800, east 9443656800 43200, east 9458776800 46800]

/-- The zone Pacific/Honolulu. -/
def honolulu : Zone where
  name := "Pacific/Honolulu"
  first := -37886
  changes := [
    west 3030561086 37800, west 4207379400 34200, west 4209226200 37800, west 4484464200 34200,
    west 4599286200 37800, west 4652512200 36000]

end Timephrase.Zone
