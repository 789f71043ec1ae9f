import CssColor.Color.Basic

/-!
# Matrices between colour spaces

- `Matrix`: three rows of three numbers, with its product with a vector.
- One matrix for each direction between a linear space and the one below it.
-/

namespace CssColor

/-- A matrix of three rows. -/
structure Matrix where
  first : Channels
  second : Channels
  third : Channels

/-- The sum of the products of components, from the first on. -/
def Channels.dot (a b : Channels) : Float :=
  a.x * b.x + a.y * b.y + a.z * b.z

/-- The product of a matrix with a vector. -/
def Matrix.apply (m : Matrix) (v : Channels) : Channels :=
  ⟨m.first.dot v, m.second.dot v, m.third.dot v⟩

namespace Matrix

/-- Linear sRGB to XYZ. -/
def srgbToXyz : Matrix where
  first := ⟨0.4123907992659593, 0.357584339383878, 0.1804807884018343⟩
  second := ⟨0.21263900587151024, 0.715168678767756, 0.07219231536073371⟩
  third := ⟨0.01933081871559182, 0.11919477979462598, 0.9505321522496607⟩

/-- XYZ to linear sRGB. -/
def xyzToSrgb : Matrix where
  first := ⟨3.240969941904523, -1.5373831775700941, -0.4986107602930035⟩
  second := ⟨-0.9692436362808797, 1.8759675015077204, 0.04155505740717562⟩
  third := ⟨0.05563007969699365, -0.20397695888897652, 1.0569715142428784⟩

/-- Linear Display P3 to XYZ. -/
def displayP3ToXyz : Matrix where
  first := ⟨0.48657094864821615, 0.26566769316909306, 0.19821728523436247⟩
  second := ⟨0.22897456406974878, 0.6917385218365063, 0.07928691409374498⟩
  third := ⟨-3.9720755169334874e-17, 0.04511338185890263, 1.0439443689009757⟩

/-- XYZ to linear Display P3. -/
def xyzToDisplayP3 : Matrix where
  first := ⟨2.4934969119414254, -0.931383617919124, -0.4027107844507169⟩
  second := ⟨-0.8294889695615748, 1.7626640603183465, 0.023624685841943587⟩
  third := ⟨0.03584583024378447, -0.07617238926804183, 0.9568845240076874⟩

/-- Linear A98 RGB to XYZ. -/
def a98ToXyz : Matrix where
  first := ⟨0.5766690429101307, 0.1855582379065463, 0.18822864623499472⟩
  second := ⟨0.2973449752505361, 0.6273635662554661, 0.07529145849399789⟩
  third := ⟨0.027031361386412343, 0.07068885253582723, 0.9913375368376389⟩

/-- XYZ to linear A98 RGB. -/
def xyzToA98 : Matrix where
  first := ⟨2.0415879038107456, -0.5650069742788595, -0.34473135077832956⟩
  second := ⟨-0.9692436362808795, 1.8759675015077202, 0.0415550574071756⟩
  third := ⟨0.013444280632031147, -0.11836239223101837, 1.0151749943912054⟩

/-- Linear ProPhoto RGB to XYZ with the D50 white. -/
def prophotoToXyz : Matrix where
  first := ⟨0.7977604896723026, 0.13518583717574031, 0.031349349581524806⟩
  second := ⟨0.28807112822929337, 0.7118432178101014, 8.565396060525903e-05⟩
  third := ⟨0.0, 0.0, 0.8251046025104602⟩

/-- XYZ with the D50 white to linear ProPhoto RGB. -/
def xyzToProphoto : Matrix where
  first := ⟨1.3457989731028281, -0.2555801000799754, -0.05110628506753401⟩
  second := ⟨-0.5446224939028347, 1.5082327413132781, 0.02053603239147973⟩
  third := ⟨0.0, 0.0, 1.2119675456389452⟩

/-- Linear Rec. 2020 to XYZ. -/
def rec2020ToXyz : Matrix where
  first := ⟨0.6369580483012911, 0.14461690358620838, 0.16888097516417208⟩
  second := ⟨0.262700212011267, 0.677998071518871, 0.05930171646986195⟩
  third := ⟨4.994106574466074e-17, 0.028072693049087438, 1.0609850577107909⟩

/-- XYZ to linear Rec. 2020. -/
def xyzToRec2020 : Matrix where
  first := ⟨1.7166511879712683, -0.3556707837763925, -0.25336628137365985⟩
  second := ⟨-0.666684351832489, 1.6164812366349388, 0.015768545813911142⟩
  third := ⟨0.017639857445310787, -0.042770613257808524, 0.9421031212354739⟩

/-- XYZ to the cone responses of Oklab. -/
def xyzToLms : Matrix where
  first := ⟨0.819022437996703, 0.3619062600528904, -0.1288737815209879⟩
  second := ⟨0.03298365393238847, 0.9292868615863434, 0.03614466635064236⟩
  third := ⟨0.04817718935962421, 0.2642395317527308, 0.6335478284694309⟩

/-- Cube roots of cone responses to Oklab. -/
def lmsToOklab : Matrix where
  first := ⟨0.21045426830931396, 0.7936177747023053, -0.0040720430116192585⟩
  second := ⟨1.9779985324311686, -2.42859224204858, 0.450593709617411⟩
  third := ⟨0.025904042465547734, 0.7827717124575297, -0.8086757549230774⟩

/-- Oklab to cube roots of cone responses. -/
def oklabToLms : Matrix where
  first := ⟨1.0, 0.3963377773761749, 0.21580375730991364⟩
  second := ⟨1.0, -0.10556134581565857, -0.0638541728258133⟩
  third := ⟨1.0, -0.08948417752981186, -1.2914855480194092⟩

/-- Cone responses of Oklab to XYZ. -/
def lmsToXyz : Matrix where
  first := ⟨1.226879875845924, -0.5578149944602171, 0.2813910456659647⟩
  second := ⟨-0.04057574521480083, 1.112286803280317, -0.07171105806551635⟩
  third := ⟨-0.07637293667466008, -0.42149333240224324, 1.5869240198367818⟩

/-- XYZ adapted from the D50 to the D65 white. -/
def d50ToD65 : Matrix where
  first := ⟨0.9554734214880749, -0.023098454948764658, 0.06325924320057072⟩
  second := ⟨-0.028369709333863756, 1.0099953980813041, 0.021041441191917323⟩
  third := ⟨0.012314014864481991, -0.020507649298898978, 1.330365926242124⟩

/-- XYZ adapted from the D65 to the D50 white. -/
def d65ToD50 : Matrix where
  first := ⟨1.047929792544997, 0.02294687060160968, -0.05019226628920527⟩
  second := ⟨0.02962780877005588, 0.99043442675388, -0.017073799063418826⟩
  third := ⟨-0.009243040646204514, 0.015055191490298152, 0.7518742814281371⟩

end Matrix

end CssColor
