import Timephrase.Zone.Basic

/-!
# Time zones of Europe

The offset changes of each zone, in seconds after the start of 1800, with the seconds east or west
that hold from then on.  Rules in force are written out to the end of 2099.
-/

namespace Timephrase.Zone

open ZoneChange (east west)

/-- The zone Europe/Athens. -/
def athens : Zone where
  name := "Europe/Athens"
  first := 5692
  changes := [
    east 3678560768 7200, east 4181666400 10800, east 4186501200 7200, east 4457800800 10800,
    east 4459784400 7200, east 4507405200 3600, east 4520185200 7200, east 4536424800 3600,
    east 4552239600 7200, east 4812300000 10800, east 4823010000 7200, east 5531148000 10800,
    east 5550847200 7200, east 5562691200 10800, east 5578416000 7200, east 5593536000 10800,
    east 5608742400 7200, east 5624985600 10800, east 5640109200 7200, east 5656460400 10800,
    east 5672070000 7200, east 5688050400 10800, east 5703598800 7200, east 5719338000 10800,
    east 5735062800 7200, east 5750787600 10800, east 5766512400 7200, east 5782237200 10800,
    east 5797962000 7200, east 5813686800 10800, east 5830016400 7200, east 5845741200 10800,
    east 5861466000 7200, east 5877190800 10800, east 5892915600 7200, east 5908640400 10800,
    east 5924365200 7200, east 5940090000 10800, east 5955814800 7200, east 5971539600 10800,
    east 5987264400 7200, east 6002989200 10800, east 6019318800 7200, east 6035043600 10800,
    east 6050768400 7200, east 6066493200 10800, east 6082218000 7200, east 6097942800 10800,
    east 6113667600 7200, east 6129392400 10800, east 6145117200 7200, east 6160842000 10800,
    east 6176566800 7200, east 6192896400 10800, east 6211040400 7200, east 6224346000 10800,
    east 6242490000 7200, east 6255795600 10800, east 6273939600 7200, east 6287245200 10800,
    east 6305994000 7200, east 6318694800 10800, east 6337443600 7200, east 6350144400 10800,
    east 6368893200 7200, east 6382198800 10800, east 6400342800 7200, east 6413648400 10800,
    east 6431792400 7200, east 6445098000 10800, east 6463846800 7200, east 6476547600 10800,
    east 6495296400 7200, east 6507997200 10800, east 6526746000 7200, east 6539446800 10800,
    east 6558195600 7200, east 6571501200 10800, east 6589645200 7200, east 6602950800 10800,
    east 6621094800 7200, east 6634400400 10800, east 6653149200 7200, east 6665850000 10800,
    east 6684598800 7200, east 6697299600 10800, east 6716048400 7200, east 6729354000 10800,
    east 6747498000 7200, east 6760803600 10800, east 6778947600 7200, east 6792253200 10800,
    east 6810397200 7200, east 6823702800 10800, east 6842451600 7200, east 6855152400 10800,
    east 6873901200 7200, east 6886602000 10800, east 6905350800 7200, east 6918656400 10800,
    east 6936800400 7200, east 6950106000 10800, east 6968250000 7200, east 6981555600 10800,
    east 7000304400 7200, east 7013005200 10800, east 7031754000 7200, east 7044454800 10800,
    east 7063203600 7200, east 7076509200 10800, east 7094653200 7200, east 7107958800 10800,
    east 7126102800 7200, east 7139408400 10800, east 7157552400 7200, east 7170858000 10800,
    east 7189606800 7200, east 7202307600 10800, east 7221056400 7200, east 7233757200 10800,
    east 7252506000 7200, east 7265811600 10800, east 7283955600 7200, east 7297261200 10800,
    east 7315405200 7200, east 7328710800 10800, east 7347459600 7200, east 7360160400 10800,
    east 7378909200 7200, east 7391610000 10800, east 7410358800 7200, east 7423059600 10800,
    east 7441808400 7200, east 7455114000 10800, east 7473258000 7200, east 7486563600 10800,
    east 7504707600 7200, east 7518013200 10800, east 7536762000 7200, east 7549462800 10800,
    east 7568211600 7200, east 7580912400 10800, east 7599661200 7200, east 7612966800 10800,
    east 7631110800 7200, east 7644416400 10800, east 7662560400 7200, east 7675866000 10800,
    east 7694010000 7200, east 7707315600 10800, east 7726064400 7200, east 7738765200 10800,
    east 7757514000 7200, east 7770214800 10800, east 7788963600 7200, east 7802269200 10800,
    east 7820413200 7200, east 7833718800 10800, east 7851862800 7200, east 7865168400 10800,
    east 7883917200 7200, east 7896618000 10800, east 7915366800 7200, east 7928067600 10800,
    east 7946816400 7200, east 7960122000 10800, east 7978266000 7200, east 7991571600 10800,
    east 8009715600 7200, east 8023021200 10800, east 8041165200 7200, east 8054470800 10800,
    east 8073219600 7200, east 8085920400 10800, east 8104669200 7200, east 8117370000 10800,
    east 8136118800 7200, east 8149424400 10800, east 8167568400 7200, east 8180874000 10800,
    east 8199018000 7200, east 8212323600 10800, east 8231072400 7200, east 8243773200 10800,
    east 8262522000 7200, east 8275222800 10800, east 8293971600 7200, east 8306672400 10800,
    east 8325421200 7200, east 8338726800 10800, east 8356870800 7200, east 8370176400 10800,
    east 8388320400 7200, east 8401626000 10800, east 8420374800 7200, east 8433075600 10800,
    east 8451824400 7200, east 8464525200 10800, east 8483274000 7200, east 8496579600 10800,
    east 8514723600 7200, east 8528029200 10800, east 8546173200 7200, east 8559478800 10800,
    east 8577622800 7200, east 8590928400 10800, east 8609677200 7200, east 8622378000 10800,
    east 8641126800 7200, east 8653827600 10800, east 8672576400 7200, east 8685882000 10800,
    east 8704026000 7200, east 8717331600 10800, east 8735475600 7200, east 8748781200 10800,
    east 8767530000 7200, east 8780230800 10800, east 8798979600 7200, east 8811680400 10800,
    east 8830429200 7200, east 8843734800 10800, east 8861878800 7200, east 8875184400 10800,
    east 8893328400 7200, east 8906634000 10800, east 8924778000 7200, east 8938083600 10800,
    east 8956832400 7200, east 8969533200 10800, east 8988282000 7200, east 9000982800 10800,
    east 9019731600 7200, east 9033037200 10800, east 9051181200 7200, east 9064486800 10800,
    east 9082630800 7200, east 9095936400 10800, east 9114685200 7200, east 9127386000 10800,
    east 9146134800 7200, east 9158835600 10800, east 9177584400 7200, east 9190285200 10800,
    east 9209034000 7200, east 9222339600 10800, east 9240483600 7200, east 9253789200 10800,
    east 9271933200 7200, east 9285238800 10800, east 9303987600 7200, east 9316688400 10800,
    east 9335437200 7200, east 9348138000 10800, east 9366886800 7200, east 9380192400 10800,
    east 9398336400 7200, east 9411642000 10800, east 9429786000 7200, east 9443091600 10800,
    east 9461235600 7200]

/-- The zone Europe/Lisbon. -/
def lisbon : Zone where
  name := "Europe/Lisbon"
  first := -2205
  changes := [
    east 3534278400 0, east 3675106800 3600, east 3686860800 0, east 3697228800 3600,
    east 3716924400 0, east 3728764800 3600, east 3748460400 0, east 3760300800 3600,
    east 3779996400 0, east 3791923200 3600, east 3811618800 0, east 3823459200 3600,
    east 3843154800 0, east 3922210800 3600, east 3936985200 0, east 3985369200 3600,
    east 3999884400 0, east 4016214000 3600, east 4031334000 0, east 4048268400 3600,
    east 4063388400 0, east 4080322800 3600, east 4094838000 0, east 4143222000 3600,
    east 4157737200 0, east 4173462000 3600, east 4189186800 0, east 4236966000 3600,
    east 4252690800 0, east 4267810800 3600, east 4284140400 0, east 4301074800 3600,
    east 4315590000 0, east 4331314800 3600, east 4347039600 0, east 4362159600 3600,
    east 4378489200 0, east 4395423600 3600, east 4414172400 0, east 4422639600 3600,
    east 4442166000 0, east 4457718000 3600, east 4473529200 0, east 4487353200 3600,
    east 4490978400 7200, east 4500655200 3600, east 4506706800 0, east 4518802800 3600,
    east 4521823200 7200, east 4533314400 3600, east 4538761200 0, east 4550252400 3600,
    east 4553877600 7200, east 4564764000 3600, east 4570210800 0, east 4581702000 3600,
    east 4585327200 7200, east 4596213600 3600, east 4601660400 0, east 4615570800 3600,
    east 4631295600 0, east 4647031200 3600, east 4662756000 0, east 4678480800 3600,
    east 4694205600 0, east 4709930400 3600, east 4725655200 0, east 4741380000 3600,
    east 4757104800 0, east 4772829600 3600, east 4789159200 0, east 4804884000 3600,
    east 4820608800 0, east 4836333600 3600, east 4852058400 0, east 4867783200 3600,
    east 4883508000 0, east 4899232800 3600, east 4914957600 0, east 4930682400 3600,
    east 4947012000 0, east 4962736800 3600, east 4978461600 0, east 4994186400 3600,
    east 5009911200 0, east 5025636000 3600, east 5041360800 0, east 5057085600 3600,
    east 5072810400 0, east 5088535200 3600, east 5104260000 0, east 5119984800 3600,
    east 5136314400 0, east 5152039200 3600, east 5167764000 0, east 5183488800 3600,
    east 5199213600 0, east 5214938400 3600, east 5230663200 0, east 5246388000 3600,
    east 5577206400 0, east 5592931200 3600, east 5608656000 0, east 5624989200 3600,
    east 5640714000 0, east 5656438800 3600, east 5672163600 0, east 5688493200 3600,
    east 5703613200 0, east 5719334400 3600, east 5735059200 0, east 5750784000 3600,
    east 5766508800 0, east 5782233600 3600, east 5797958400 0, east 5813683200 3600,
    east 5830012800 0, east 5845737600 3600, east 5861462400 0, east 5877190800 3600,
    east 5892915600 0, east 5908640400 3600, east 5924365200 0, east 5940090000 3600,
    east 5955814800 0, east 5971539600 3600, east 5987264400 0, east 6002989200 3600,
    east 6019318800 0, east 6035043600 3600, east 6050768400 0, east 6066493200 3600,
    east 6097942800 7200, east 6113667600 3600, east 6129392400 7200, east 6145117200 3600,
    east 6160842000 7200, east 6176566800 3600, east 6211040400 0, east 6224346000 3600,
    east 6242490000 0, east 6255795600 3600, east 6273939600 0, east 6287245200 3600,
    east 6305994000 0, east 6318694800 3600, east 6337443600 0, east 6350144400 3600,
    east 6368893200 0, east 6382198800 3600, east 6400342800 0, east 6413648400 3600,
    east 6431792400 0, east 6445098000 3600, east 6463846800 0, east 6476547600 3600,
    east 6495296400 0, east 6507997200 3600, east 6526746000 0, east 6539446800 3600,
    east 6558195600 0, east 6571501200 3600, east 6589645200 0, east 6602950800 3600,
    east 6621094800 0, east 6634400400 3600, east 6653149200 0, east 6665850000 3600,
    east 6684598800 0, east 6697299600 3600, east 6716048400 0, east 6729354000 3600,
    east 6747498000 0, east 6760803600 3600, east 6778947600 0, east 6792253200 3600,
    east 6810397200 0, east 6823702800 3600, east 6842451600 0, east 6855152400 3600,
    east 6873901200 0, east 6886602000 3600, east 6905350800 0, east 6918656400 3600,
    east 6936800400 0, east 6950106000 3600, east 6968250000 0, east 6981555600 3600,
    east 7000304400 0, east 7013005200 3600, east 7031754000 0, east 7044454800 3600,
    east 7063203600 0, east 7076509200 3600, east 7094653200 0, east 7107958800 3600,
    east 7126102800 0, east 7139408400 3600, east 7157552400 0, east 7170858000 3600,
    east 7189606800 0, east 7202307600 3600, east 7221056400 0, east 7233757200 3600,
    east 7252506000 0, east 7265811600 3600, east 7283955600 0, east 7297261200 3600,
    east 7315405200 0, east 7328710800 3600, east 7347459600 0, east 7360160400 3600,
    east 7378909200 0, east 7391610000 3600, east 7410358800 0, east 7423059600 3600,
    east 7441808400 0, east 7455114000 3600, east 7473258000 0, east 7486563600 3600,
    east 7504707600 0, east 7518013200 3600, east 7536762000 0, east 7549462800 3600,
    east 7568211600 0, east 7580912400 3600, east 7599661200 0, east 7612966800 3600,
    east 7631110800 0, east 7644416400 3600, east 7662560400 0, east 7675866000 3600,
    east 7694010000 0, east 7707315600 3600, east 7726064400 0, east 7738765200 3600,
    east 7757514000 0, east 7770214800 3600, east 7788963600 0, east 7802269200 3600,
    east 7820413200 0, east 7833718800 3600, east 7851862800 0, east 7865168400 3600,
    east 7883917200 0, east 7896618000 3600, east 7915366800 0, east 7928067600 3600,
    east 7946816400 0, east 7960122000 3600, east 7978266000 0, east 7991571600 3600,
    east 8009715600 0, east 8023021200 3600, east 8041165200 0, east 8054470800 3600,
    east 8073219600 0, east 8085920400 3600, east 8104669200 0, east 8117370000 3600,
    east 8136118800 0, east 8149424400 3600, east 8167568400 0, east 8180874000 3600,
    east 8199018000 0, east 8212323600 3600, east 8231072400 0, east 8243773200 3600,
    east 8262522000 0, east 8275222800 3600, east 8293971600 0, east 8306672400 3600,
    east 8325421200 0, east 8338726800 3600, east 8356870800 0, east 8370176400 3600,
    east 8388320400 0, east 8401626000 3600, east 8420374800 0, east 8433075600 3600,
    east 8451824400 0, east 8464525200 3600, east 8483274000 0, east 8496579600 3600,
    east 8514723600 0, east 8528029200 3600, east 8546173200 0, east 8559478800 3600,
    east 8577622800 0, east 8590928400 3600, east 8609677200 0, east 8622378000 3600,
    east 8641126800 0, east 8653827600 3600, east 8672576400 0, east 8685882000 3600,
    east 8704026000 0, east 8717331600 3600, east 8735475600 0, east 8748781200 3600,
    east 8767530000 0, east 8780230800 3600, east 8798979600 0, east 8811680400 3600,
    east 8830429200 0, east 8843734800 3600, east 8861878800 0, east 8875184400 3600,
    east 8893328400 0, east 8906634000 3600, east 8924778000 0, east 8938083600 3600,
    east 8956832400 0, east 8969533200 3600, east 8988282000 0, east 9000982800 3600,
    east 9019731600 0, east 9033037200 3600, east 9051181200 0, east 9064486800 3600,
    east 9082630800 0, east 9095936400 3600, east 9114685200 0, east 9127386000 3600,
    east 9146134800 0, east 9158835600 3600, east 9177584400 0, east 9190285200 3600,
    east 9209034000 0, east 9222339600 3600, east 9240483600 0, east 9253789200 3600,
    east 9271933200 0, east 9285238800 3600, east 9303987600 0, east 9316688400 3600,
    east 9335437200 0, east 9348138000 3600, east 9366886800 0, east 9380192400 3600,
    east 9398336400 0, east 9411642000 3600, east 9429786000 0, east 9443091600 3600,
    east 9461235600 0]

/-- The zone Europe/London. -/
def london : Zone where
  name := "Europe/London"
  first := -75
  changes := [
    east 1512000075 0, east 3672698400 3600, east 3684189600 0, east 3700519200 3600,
    east 3714516000 0, east 3730759200 3600, east 3747175200 0, east 3762813600 3600,
    east 3778624800 0, east 3794263200 3600, east 3812493600 0, east 3826317600 3600,
    east 3842128800 0, east 3857162400 3600, east 3874096800 0, east 3891031200 3600,
    east 3903732000 0, east 3921876000 3600, east 3935786400 0, east 3953930400 3600,
    east 3968445600 0, east 3985380000 3600, east 3999895200 0, east 4016224800 3600,
    east 4031344800 0, east 4048884000 3600, east 4063399200 0, east 4080333600 3600,
    east 4094848800 0, east 4111178400 3600, east 4126298400 0, east 4143232800 3600,
    east 4157748000 0, east 4174682400 3600, east 4189197600 0, east 4205527200 3600,
    east 4221252000 0, east 4238186400 3600, east 4252701600 0, east 4269031200 3600,
    east 4284151200 0, east 4301085600 3600, east 4315600800 0, east 4332535200 3600,
    east 4347050400 0, east 4363380000 3600, east 4378500000 0, east 4395434400 3600,
    east 4414183200 0, east 4422650400 3600, east 4460144400 7200, east 4468611600 3600,
    east 4489174800 7200, east 4500061200 3600, east 4520624400 7200, east 4532115600 3600,
    east 4552074000 7200, east 4566589200 3600, east 4583610000 7200, east 4592595600 3600,
    east 4599856800 0, east 4616186400 3600, east 4631306400 0, east 4645216800 3600,
    east 4647632400 7200, east 4657914000 3600, east 4665175200 0, east 4676666400 3600,
    east 4696624800 0, east 4709930400 3600, east 4728074400 0, east 4742589600 3600,
    east 4758919200 0, east 4774039200 3600, east 4790368800 0, east 4806093600 3600,
    east 4822423200 0, east 4837543200 3600, east 4852058400 0, east 4868388000 3600,
    east 4883508000 0, east 4900442400 3600, east 4914957600 0, east 4932496800 3600,
    east 4947012000 0, east 4963341600 3600, east 4978461600 0, east 4995396000 3600,
    east 5009911200 0, east 5026845600 3600, east 5041360800 0, east 5057690400 3600,
    east 5072810400 0, east 5087930400 3600, east 5106679200 0, east 5119380000 3600,
    east 5138128800 0, east 5151434400 3600, east 5169578400 0, east 5182279200 3600,
    east 5201028000 0, east 5213728800 3600, east 5232477600 0, east 5245178400 3600,
    east 5263927200 0, east 5276628000 3600, east 5295981600 0, east 5305658400 3600,
    east 5422384800 0, east 5434480800 3600, east 5453834400 0, east 5465930400 3600,
    east 5485284000 0, east 5497380000 3600, east 5516733600 0, east 5528829600 3600,
    east 5548183200 0, east 5560884000 3600, east 5579632800 0, east 5592333600 3600,
    east 5611082400 0, east 5623783200 3600, east 5643136800 0, east 5655232800 3600,
    east 5674586400 0, east 5686682400 3600, east 5706036000 0, east 5719338000 3600,
    east 5737482000 0, east 5750787600 3600, east 5768931600 0, east 5782237200 3600,
    east 5800381200 0, east 5813686800 3600, east 5832435600 0, east 5845741200 3600,
    east 5863885200 0, east 5877190800 3600, east 5895334800 0, east 5908640400 3600,
    east 5926784400 0, east 5940090000 3600, east 5958234000 0, east 5971539600 3600,
    east 5990288400 0, east 6002989200 3600, east 6021738000 0, east 6035043600 3600,
    east 6053187600 0, east 6066493200 3600, east 6084637200 0, east 6097942800 3600,
    east 6116086800 0, east 6129392400 3600, east 6147536400 0, east 6160842000 3600,
    east 6178986000 0, east 6192896400 3600, east 6211040400 0, east 6224346000 3600,
    east 6242490000 0, east 6255795600 3600, east 6273939600 0, east 6287245200 3600,
    east 6305994000 0, east 6318694800 3600, east 6337443600 0, east 6350144400 3600,
    east 6368893200 0, east 6382198800 3600, east 6400342800 0, east 6413648400 3600,
    east 6431792400 0, east 6445098000 3600, east 6463846800 0, east 6476547600 3600,
    east 6495296400 0, east 6507997200 3600, east 6526746000 0, east 6539446800 3600,
    east 6558195600 0, east 6571501200 3600, east 6589645200 0, east 6602950800 3600,
    east 6621094800 0, east 6634400400 3600, east 6653149200 0, east 6665850000 3600,
    east 6684598800 0, east 6697299600 3600, east 6716048400 0, east 6729354000 3600,
    east 6747498000 0, east 6760803600 3600, east 6778947600 0, east 6792253200 3600,
    east 6810397200 0, east 6823702800 3600, east 6842451600 0, east 6855152400 3600,
    east 6873901200 0, east 6886602000 3600, east 6905350800 0, east 6918656400 3600,
    east 6936800400 0, east 6950106000 3600, east 6968250000 0, east 6981555600 3600,
    east 7000304400 0, east 7013005200 3600, east 7031754000 0, east 7044454800 3600,
    east 7063203600 0, east 7076509200 3600, east 7094653200 0, east 7107958800 3600,
    east 7126102800 0, east 7139408400 3600, east 7157552400 0, east 7170858000 3600,
    east 7189606800 0, east 7202307600 3600, east 7221056400 0, east 7233757200 3600,
    east 7252506000 0, east 7265811600 3600, east 7283955600 0, east 7297261200 3600,
    east 7315405200 0, east 7328710800 3600, east 7347459600 0, east 7360160400 3600,
    east 7378909200 0, east 7391610000 3600, east 7410358800 0, east 7423059600 3600,
    east 7441808400 0, east 7455114000 3600, east 7473258000 0, east 7486563600 3600,
    east 7504707600 0, east 7518013200 3600, east 7536762000 0, east 7549462800 3600,
    east 7568211600 0, east 7580912400 3600, east 7599661200 0, east 7612966800 3600,
    east 7631110800 0, east 7644416400 3600, east 7662560400 0, east 7675866000 3600,
    east 7694010000 0, east 7707315600 3600, east 7726064400 0, east 7738765200 3600,
    east 7757514000 0, east 7770214800 3600, east 7788963600 0, east 7802269200 3600,
    east 7820413200 0, east 7833718800 3600, east 7851862800 0, east 7865168400 3600,
    east 7883917200 0, east 7896618000 3600, east 7915366800 0, east 7928067600 3600,
    east 7946816400 0, east 7960122000 3600, east 7978266000 0, east 7991571600 3600,
    east 8009715600 0, east 8023021200 3600, east 8041165200 0, east 8054470800 3600,
    east 8073219600 0, east 8085920400 3600, east 8104669200 0, east 8117370000 3600,
    east 8136118800 0, east 8149424400 3600, east 8167568400 0, east 8180874000 3600,
    east 8199018000 0, east 8212323600 3600, east 8231072400 0, east 8243773200 3600,
    east 8262522000 0, east 8275222800 3600, east 8293971600 0, east 8306672400 3600,
    east 8325421200 0, east 8338726800 3600, east 8356870800 0, east 8370176400 3600,
    east 8388320400 0, east 8401626000 3600, east 8420374800 0, east 8433075600 3600,
    east 8451824400 0, east 8464525200 3600, east 8483274000 0, east 8496579600 3600,
    east 8514723600 0, east 8528029200 3600, east 8546173200 0, east 8559478800 3600,
    east 8577622800 0, east 8590928400 3600, east 8609677200 0, east 8622378000 3600,
    east 8641126800 0, east 8653827600 3600, east 8672576400 0, east 8685882000 3600,
    east 8704026000 0, east 8717331600 3600, east 8735475600 0, east 8748781200 3600,
    east 8767530000 0, east 8780230800 3600, east 8798979600 0, east 8811680400 3600,
    east 8830429200 0, east 8843734800 3600, east 8861878800 0, east 8875184400 3600,
    east 8893328400 0, east 8906634000 3600, east 8924778000 0, east 8938083600 3600,
    east 8956832400 0, east 8969533200 3600, east 8988282000 0, east 9000982800 3600,
    east 9019731600 0, east 9033037200 3600, east 9051181200 0, east 9064486800 3600,
    east 9082630800 0, east 9095936400 3600, east 9114685200 0, east 9127386000 3600,
    east 9146134800 0, east 9158835600 3600, east 9177584400 0, east 9190285200 3600,
    east 9209034000 0, east 9222339600 3600, east 9240483600 0, east 9253789200 3600,
    east 9271933200 0, east 9285238800 3600, east 9303987600 0, east 9316688400 3600,
    east 9335437200 0, east 9348138000 3600, east 9366886800 0, east 9380192400 3600,
    east 9398336400 0, east 9411642000 3600, east 9429786000 0, east 9443091600 3600,
    east 9461235600 0]

/-- The zone Europe/Moscow. -/
def moscow : Zone where
  name := "Europe/Moscow"
  first := 9017
  changes := [
    east 3676397383 9079, east 3707843321 12679, east 3723308921 9079, east 3736697321 16279,
    east 3745945721 12679, east 3768233321 16279, east 3770841600 14400, east 3774801600 10800,
    east 3822235200 14400, east 3825169200 18000, east 3839338800 14400, east 3841934400 10800,
    east 3873474000 7200, east 4117125600 10800, east 5719582800 14400, east 5735390400 10800,
    east 5751118800 14400, east 5766926400 10800, east 5782654800 14400, east 5798462400 10800,
    east 5814277200 14400, east 5830009200 10800, east 5845734000 14400, east 5861458800 10800,
    east 5877183600 14400, east 5892908400 10800, east 5908633200 14400, east 5924358000 10800,
    east 5940082800 14400, east 5955807600 10800, east 5971532400 14400, east 5987257200 10800,
    east 6002982000 14400, east 6019311600 10800, east 6050764800 7200, east 6060441600 10800,
    east 6066486000 14400, east 6082210800 10800, east 6097935600 14400, east 6113660400 10800,
    east 6129385200 14400, east 6145110000 10800, east 6160834800 14400, east 6176559600 10800,
    east 6192889200 14400, east 6211033200 10800, east 6224338800 14400, east 6242482800 10800,
    east 6255788400 14400, east 6273932400 10800, east 6287238000 14400, east 6305986800 10800,
    east 6318687600 14400, east 6337436400 10800, east 6350137200 14400, east 6368886000 10800,
    east 6382191600 14400, east 6400335600 10800, east 6413641200 14400, east 6431785200 10800,
    east 6445090800 14400, east 6463839600 10800, east 6476540400 14400, east 6495289200 10800,
    east 6507990000 14400, east 6526738800 10800, east 6539439600 14400, east 6558188400 10800,
    east 6571494000 14400, east 6589638000 10800, east 6602943600 14400, east 6621087600 10800,
    east 6634393200 14400, east 6653142000 10800, east 6665842800 14400, east 6778936800 10800]

/-- The zone Europe/Paris. -/
def paris : Zone where
  name := "Europe/Paris"
  first := 561
  changes := [
    east 3508703439 0, east 3674847600 3600, east 3684265200 0, east 3699298800 3600,
    east 3716319600 0, east 3729538800 3600, east 3747769200 0, east 3760383600 3600,
    east 3779218800 0, east 3790623600 3600, east 3812396400 0, east 3824665200 3600,
    east 3844105200 0, east 3857151600 3600, east 3874086000 0, east 3894044400 3600,
    east 3905535600 0, east 3920655600 3600, east 3936985200 0, east 3952710000 3600,
    east 3968434800 0, east 3985369200 3600, east 3999884400 0, east 4016214000 3600,
    east 4031334000 0, east 4048268400 3600, east 4063388400 0, east 4080322800 3600,
    east 4094838000 0, east 4111167600 3600, east 4126287600 0, east 4143222000 3600,
    east 4157737200 0, east 4173462000 3600, east 4189186800 0, east 4204306800 3600,
    east 4221241200 0, east 4236966000 3600, east 4252690800 0, east 4267810800 3600,
    east 4284140400 0, east 4301074800 3600, east 4315590000 0, east 4331314800 3600,
    east 4347039600 0, east 4362159600 3600, east 4378489200 0, east 4395423600 3600,
    east 4414172400 0, east 4422650400 3600, east 4432226400 7200, east 4507405200 3600,
    east 4520106000 7200, east 4536435600 3600, east 4552160400 7200, east 4568396400 3600,
    east 4583610000 7200, east 4598038800 3600, east 5561481600 7200, east 5577202800 3600,
    east 5593539600 7200, east 5608659600 3600, east 5624989200 7200, east 5640714000 3600,
    east 5656438800 7200, east 5672163600 3600, east 5688493200 7200, east 5703613200 3600,
    east 5719338000 7200, east 5735062800 3600, east 5750787600 7200, east 5766512400 3600,
    east 5782237200 7200, east 5797962000 3600, east 5813686800 7200, east 5830016400 3600,
    east 5845741200 7200, east 5861466000 3600, east 5877190800 7200, east 5892915600 3600,
    east 5908640400 7200, east 5924365200 3600, east 5940090000 7200, east 5955814800 3600,
    east 5971539600 7200, east 5987264400 3600, east 6002989200 7200, east 6019318800 3600,
    east 6035043600 7200, east 6050768400 3600, east 6066493200 7200, east 6082218000 3600,
    east 6097942800 7200, east 6113667600 3600, east 6129392400 7200, east 6145117200 3600,
    east 6160842000 7200, east 6176566800 3600, east 6192896400 7200, east 6211040400 3600,
    east 6224346000 7200, east 6242490000 3600, east 6255795600 7200, east 6273939600 3600,
    east 6287245200 7200, east 6305994000 3600, east 6318694800 7200, east 6337443600 3600,
    east 6350144400 7200, east 6368893200 3600, east 6382198800 7200, east 6400342800 3600,
    east 6413648400 7200, east 6431792400 3600, east 6445098000 7200, east 6463846800 3600,
    east 6476547600 7200, east 6495296400 3600, east 6507997200 7200, east 6526746000 3600,
    east 6539446800 7200, east 6558195600 3600, east 6571501200 7200, east 6589645200 3600,
    east 6602950800 7200, east 6621094800 3600, east 6634400400 7200, east 6653149200 3600,
    east 6665850000 7200, east 6684598800 3600, east 6697299600 7200, east 6716048400 3600,
    east 6729354000 7200, east 6747498000 3600, east 6760803600 7200, east 6778947600 3600,
    east 6792253200 7200, east 6810397200 3600, east 6823702800 7200, east 6842451600 3600,
    east 6855152400 7200, east 6873901200 3600, east 6886602000 7200, east 6905350800 3600,
    east 6918656400 7200, east 6936800400 3600, east 6950106000 7200, east 6968250000 3600,
    east 6981555600 7200, east 7000304400 3600, east 7013005200 7200, east 7031754000 3600,
    east 7044454800 7200, east 7063203600 3600, east 7076509200 7200, east 7094653200 3600,
    east 7107958800 7200, east 7126102800 3600, east 7139408400 7200, east 7157552400 3600,
    east 7170858000 7200, east 7189606800 3600, east 7202307600 7200, east 7221056400 3600,
    east 7233757200 7200, east 7252506000 3600, east 7265811600 7200, east 7283955600 3600,
    east 7297261200 7200, east 7315405200 3600, east 7328710800 7200, east 7347459600 3600,
    east 7360160400 7200, east 7378909200 3600, east 7391610000 7200, east 7410358800 3600,
    east 7423059600 7200, east 7441808400 3600, east 7455114000 7200, east 7473258000 3600,
    east 7486563600 7200, east 7504707600 3600, east 7518013200 7200, east 7536762000 3600,
    east 7549462800 7200, east 7568211600 3600, east 7580912400 7200, east 7599661200 3600,
    east 7612966800 7200, east 7631110800 3600, east 7644416400 7200, east 7662560400 3600,
    east 7675866000 7200, east 7694010000 3600, east 7707315600 7200, east 7726064400 3600,
    east 7738765200 7200, east 7757514000 3600, east 7770214800 7200, east 7788963600 3600,
    east 7802269200 7200, east 7820413200 3600, east 7833718800 7200, east 7851862800 3600,
    east 7865168400 7200, east 7883917200 3600, east 7896618000 7200, east 7915366800 3600,
    east 7928067600 7200, east 7946816400 3600, east 7960122000 7200, east 7978266000 3600,
    east 7991571600 7200, east 8009715600 3600, east 8023021200 7200, east 8041165200 3600,
    east 8054470800 7200, east 8073219600 3600, east 8085920400 7200, east 8104669200 3600,
    east 8117370000 7200, east 8136118800 3600, east 8149424400 7200, east 8167568400 3600,
    east 8180874000 7200, east 8199018000 3600, east 8212323600 7200, east 8231072400 3600,
    east 8243773200 7200, east 8262522000 3600, east 8275222800 7200, east 8293971600 3600,
    east 8306672400 7200, east 8325421200 3600, east 8338726800 7200, east 8356870800 3600,
    east 8370176400 7200, east 8388320400 3600, east 8401626000 7200, east 8420374800 3600,
    east 8433075600 7200, east 8451824400 3600, east 8464525200 7200, east 8483274000 3600,
    east 8496579600 7200, east 8514723600 3600, east 8528029200 7200, east 8546173200 3600,
    east 8559478800 7200, east 8577622800 3600, east 8590928400 7200, east 8609677200 3600,
    east 8622378000 7200, east 8641126800 3600, east 8653827600 7200, east 8672576400 3600,
    east 8685882000 7200, east 8704026000 3600, east 8717331600 7200, east 8735475600 3600,
    east 8748781200 7200, east 8767530000 3600, east 8780230800 7200, east 8798979600 3600,
    east 8811680400 7200, east 8830429200 3600, east 8843734800 7200, east 8861878800 3600,
    east 8875184400 7200, east 8893328400 3600, east 8906634000 7200, east 8924778000 3600,
    east 8938083600 7200, east 8956832400 3600, east 8969533200 7200, east 8988282000 3600,
    east 9000982800 7200, east 9019731600 3600, east 9033037200 7200, east 9051181200 3600,
    east 9064486800 7200, east 9082630800 3600, east 9095936400 7200, east 9114685200 3600,
    east 9127386000 7200, east 9146134800 3600, east 9158835600 7200, east 9177584400 3600,
    east 9190285200 7200, east 9209034000 3600, east 9222339600 7200, east 9240483600 3600,
    east 9253789200 7200, east 9271933200 3600, east 9285238800 7200, east 9303987600 3600,
    east 9316688400 7200, east 9335437200 3600, east 9348138000 7200, east 9366886800 3600,
    east 9380192400 7200, east 9398336400 3600, east 9411642000 7200, east 9429786000 3600,
    east 9443091600 7200, east 9461235600 3600]

end Timephrase.Zone
