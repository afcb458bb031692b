/-
Data for names of hosts, Unicode 17.0.

Characters that are replaced by others in a name, apart from those that merely
go to lower case, are listed as runs in `imageShifts` and else, by script and
form, in the tables of images. `ignoredRanges` lists those that are left out,
and `refusedRanges` visible ones that no name has.
-/
import BookSync.Text.Ranges
import BookSync.Text.Shift

namespace BookSync.Url.Domain

/-- Characters that are left out of a name: soft hyphens, fillers, invisible
operators, variation selectors. -/
def ignoredRanges : Text.Ranges := #[
  (0xad, 0xad), (0x34f, 0x34f), (0x115f, 0x1160), (0x17b4, 0x17b5), (0x180b, 0x180f),
  (0x200b, 0x200b), (0x2060, 0x2064), (0x206a, 0x206f), (0x3164, 0x3164), (0xfe00, 0xfe0f),
  (0xfeff, 0xfeff), (0xffa0, 0xffa0), (0x1bca0, 0x1bca3), (0x1d173, 0x1d17a), (0xe0100, 0xe01ef)]

/-- Visible characters that no name has: those that contain a point, signs that
describe ideographs, and replacements for what is missing. -/
def refusedRanges : Text.Ranges := #[
  (0x2024, 0x2026), (0x2488, 0x249b), (0x2ff0, 0x2fff), (0x31ef, 0x31ef), (0x33c2, 0x33c2),
  (0x33c7, 0x33c7), (0x33d8, 0x33d8), (0xfe12, 0xfe12), (0xfe19, 0xfe19), (0xfe30, 0xfe30),
  (0xfe52, 0xfe52), (0xfffc, 0xfffd), (0x1f100, 0x1f100)]

/-- Runs of characters that are replaced, or kept although they have a lower
case form. -/
def imageShifts : Array Text.Shift := #[
  ⟨0xb2, 0xb3, 1, -128⟩, ⟨0x13a0, 0x13f5, 1, 0⟩, ⟨0x13f8, 0x13fd, 1, -8⟩,
  ⟨0x1c83, 0x1c84, 1, -6210⟩, ⟨0x1d30, 0x1d31, 1, -7372⟩, ⟨0x1d33, 0x1d3a, 1, -7372⟩,
  ⟨0x1d40, 0x1d41, 1, -7372⟩, ⟨0x1d44, 0x1d45, 1, -6900⟩, ⟨0x1d48, 0x1d49, 1, -7396⟩,
  ⟨0x1d4b, 0x1d4c, 1, -6896⟩, ⟨0x1d54, 0x1d55, 1, -62⟩, ⟨0x1d57, 0x1d58, 1, -7395⟩,
  ⟨0x1d5d, 0x1d5f, 1, -6571⟩, ⟨0x1d60, 0x1d61, 1, -6554⟩, ⟨0x1d64, 0x1d65, 1, -7407⟩,
  ⟨0x1d66, 0x1d67, 1, -6580⟩, ⟨0x1d69, 0x1d6a, 1, -6563⟩, ⟨0x1da4, 0x1da6, 1, -6972⟩,
  ⟨0x1dae, 0x1db1, 1, -6972⟩, ⟨0x1db3, 0x1db4, 1, -6961⟩, ⟨0x1db6, 0x1db7, 1, -6957⟩,
  ⟨0x1db9, 0x1dba, 1, -6958⟩, ⟨0x1dbc, 0x1dbe, 1, -6956⟩, ⟨0x2074, 0x2079, 1, -8256⟩,
  ⟨0x207d, 0x207e, 1, -8277⟩, ⟨0x2080, 0x2089, 1, -8272⟩, ⟨0x208d, 0x208e, 1, -8293⟩,
  ⟨0x2096, 0x2099, 1, -8235⟩, ⟨0x209b, 0x209c, 1, -8232⟩, ⟨0x210a, 0x210b, 1, -8355⟩,
  ⟨0x2119, 0x211b, 1, -8361⟩, ⟨0x212c, 0x212d, 1, -8394⟩, ⟨0x2130, 0x2131, 1, -8395⟩,
  ⟨0x2135, 0x2138, 1, -7013⟩, ⟨0x2146, 0x2147, 1, -8418⟩, ⟨0x2148, 0x2149, 1, -8415⟩,
  ⟨0x216d, 0x216e, 1, -8458⟩, ⟨0x217d, 0x217e, 1, -8474⟩, ⟨0x2460, 0x2468, 1, -9263⟩,
  ⟨0x24b6, 0x24cf, 1, -9301⟩, ⟨0x24d0, 0x24e9, 1, -9327⟩, ⟨0x3039, 0x303a, 1, 8971⟩,
  ⟨0x3131, 0x3132, 1, -8241⟩, ⟨0x3135, 0x3136, 1, -8073⟩, ⟨0x3137, 0x3139, 1, -8244⟩,
  ⟨0x313a, 0x313f, 1, -8074⟩, ⟨0x3141, 0x3143, 1, -8251⟩, ⟨0x3145, 0x314e, 1, -8252⟩,
  ⟨0x314f, 0x3163, 1, -8174⟩, ⟨0x3165, 0x3166, 1, -8273⟩, ⟨0x3167, 0x3168, 1, -8096⟩,
  ⟨0x3171, 0x3172, 1, -8276⟩, ⟨0x3174, 0x3175, 1, -8274⟩, ⟨0x3178, 0x317c, 1, -8269⟩,
  ⟨0x3182, 0x3183, 1, -8081⟩, ⟨0x3184, 0x3186, 1, -8237⟩, ⟨0x3187, 0x3188, 1, -8195⟩,
  ⟨0x318a, 0x318b, 1, -8185⟩, ⟨0x3261, 0x3262, 1, -8543⟩, ⟨0x3263, 0x3265, 1, -8542⟩,
  ⟨0x3267, 0x3268, 1, -8540⟩, ⟨0x3269, 0x326d, 1, -8539⟩, ⟨0x32d4, 0x32d5, 1, -554⟩,
  ⟨0x32e4, 0x32e9, 1, -538⟩, ⟨0x32ee, 0x32f2, 1, -528⟩, ⟨0x32f5, 0x32fa, 1, -525⟩,
  ⟨0x32fb, 0x32fe, 1, -524⟩, ⟨0xab70, 0xabbf, 1, -38864⟩, ⟨0xfb22, 0xfb23, 1, -62799⟩,
  ⟨0xfb24, 0xfb26, 1, -62793⟩, ⟨0xfb7d, 0xfb7e, 1, -62711⟩, ⟨0xfb9f, 0xfba0, 1, -62693⟩,
  ⟨0xfba5, 0xfba6, 1, -62693⟩, ⟨0xfbaf, 0xfbb0, 1, -62685⟩, ⟨0xfe13, 0xfe14, 1, -64985⟩,
  ⟨0xfe17, 0xfe18, 1, -52737⟩, ⟨0xfe35, 0xfe36, 1, -65037⟩, ⟨0xfe39, 0xfe3a, 1, -52773⟩,
  ⟨0xfe3b, 0xfe3c, 1, -52779⟩, ⟨0xfe3d, 0xfe3e, 1, -52787⟩, ⟨0xfe3f, 0xfe40, 1, -52791⟩,
  ⟨0xfe41, 0xfe44, 1, -52789⟩, ⟨0xfe59, 0xfe5a, 1, -65073⟩, ⟨0xfe5d, 0xfe5e, 1, -52809⟩,
  ⟨0xfe61, 0xfe62, 1, -65079⟩, ⟨0xfe69, 0xfe6a, 1, -65093⟩, ⟨0xfe80, 0xfe81, 1, -63583⟩,
  ⟨0xfe82, 0xfe83, 1, -63584⟩, ⟨0xfe84, 0xfe85, 1, -63585⟩, ⟨0xfe86, 0xfe87, 1, -63586⟩,
  ⟨0xfe88, 0xfe89, 1, -63587⟩, ⟨0xfe8c, 0xfe8d, 1, -63590⟩, ⟨0xfe8e, 0xfe8f, 1, -63591⟩,
  ⟨0xfe92, 0xfe93, 1, -63594⟩, ⟨0xfe94, 0xfe95, 1, -63595⟩, ⟨0xfe98, 0xfe99, 1, -63598⟩,
  ⟨0xfe9c, 0xfe9d, 1, -63601⟩, ⟨0xfea0, 0xfea1, 1, -63604⟩, ⟨0xfea4, 0xfea5, 1, -63607⟩,
  ⟨0xfea8, 0xfea9, 1, -63610⟩, ⟨0xfeaa, 0xfeab, 1, -63611⟩, ⟨0xfeac, 0xfead, 1, -63612⟩,
  ⟨0xfeae, 0xfeaf, 1, -63613⟩, ⟨0xfeb0, 0xfeb1, 1, -63614⟩, ⟨0xfeb4, 0xfeb5, 1, -63617⟩,
  ⟨0xfeb8, 0xfeb9, 1, -63620⟩, ⟨0xfebc, 0xfebd, 1, -63623⟩, ⟨0xfec0, 0xfec1, 1, -63626⟩,
  ⟨0xfec4, 0xfec5, 1, -63629⟩, ⟨0xfec8, 0xfec9, 1, -63632⟩, ⟨0xfecc, 0xfecd, 1, -63635⟩,
  ⟨0xfed4, 0xfed5, 1, -63635⟩, ⟨0xfed8, 0xfed9, 1, -63638⟩, ⟨0xfedc, 0xfedd, 1, -63641⟩,
  ⟨0xfee0, 0xfee1, 1, -63644⟩, ⟨0xfee4, 0xfee5, 1, -63647⟩, ⟨0xfee8, 0xfee9, 1, -63650⟩,
  ⟨0xfeec, 0xfeed, 1, -63653⟩, ⟨0xfeee, 0xfeef, 1, -63654⟩, ⟨0xfef0, 0xfef1, 1, -63655⟩,
  ⟨0xff01, 0xff20, 1, -65248⟩, ⟨0xff21, 0xff3a, 1, -65216⟩, ⟨0xff3b, 0xff5e, 1, -65248⟩,
  ⟨0xff5f, 0xff60, 1, -54746⟩, ⟨0xff62, 0xff63, 1, -53078⟩, ⟨0xff75, 0xff76, 1, -52939⟩,
  ⟨0xff85, 0xff8a, 1, -52923⟩, ⟨0xff8f, 0xff93, 1, -52913⟩, ⟨0xff96, 0xff9b, 1, -52910⟩,
  ⟨0xff9e, 0xff9f, 1, -52997⟩, ⟨0xffa1, 0xffa2, 1, -61089⟩, ⟨0xffa5, 0xffa6, 1, -60921⟩,
  ⟨0xffa7, 0xffa9, 1, -61092⟩, ⟨0xffaa, 0xffaf, 1, -60922⟩, ⟨0xffb1, 0xffb3, 1, -61099⟩,
  ⟨0xffb5, 0xffbe, 1, -61100⟩, ⟨0xffc2, 0xffc7, 1, -61025⟩, ⟨0xffca, 0xffcf, 1, -61027⟩,
  ⟨0xffd2, 0xffd7, 1, -61029⟩, ⟨0xffda, 0xffdc, 1, -61031⟩, ⟨0xffe0, 0xffe1, 1, -65342⟩,
  ⟨0xffe9, 0xffec, 1, -56921⟩, ⟨0x10781, 0x10782, 1, -66737⟩, ⟨0x1078b, 0x1078c, 1, -66869⟩,
  ⟨0x10799, 0x1079a, 1, -66799⟩, ⟨0x1079c, 0x1079c, 1, 55144⟩, ⟨0x1079f, 0x1079f, 1, 55142⟩,
  ⟨0x107a1, 0x107a1, 1, 55141⟩, ⟨0x107a3, 0x107a4, 1, -66861⟩, ⟨0x107a7, 0x107a7, 1, 55137⟩,
  ⟨0x107a8, 0x107a9, 1, -66859⟩, ⟨0x107b3, 0x107b4, 1, -66834⟩, ⟨0x107b6, 0x107b8, 1, -67062⟩,
  ⟨0x107b9, 0x107b9, 1, 55121⟩, ⟨0x107ba, 0x107ba, 1, 55140⟩, ⟨0x1ccd6, 0x1ccef, 1, -117877⟩,
  ⟨0x1ccf0, 0x1ccf9, 1, -117952⟩, ⟨0x1d400, 0x1d419, 1, -119711⟩, ⟨0x1d41a, 0x1d433, 1, -119737⟩,
  ⟨0x1d434, 0x1d44d, 1, -119763⟩, ⟨0x1d44e, 0x1d454, 1, -119789⟩, ⟨0x1d456, 0x1d467, 1, -119789⟩,
  ⟨0x1d468, 0x1d481, 1, -119815⟩, ⟨0x1d482, 0x1d49b, 1, -119841⟩, ⟨0x1d49e, 0x1d49f, 1, -119867⟩,
  ⟨0x1d4a5, 0x1d4a6, 1, -119867⟩, ⟨0x1d4a9, 0x1d4ac, 1, -119867⟩, ⟨0x1d4ae, 0x1d4b5, 1, -119867⟩,
  ⟨0x1d4b6, 0x1d4b9, 1, -119893⟩, ⟨0x1d4bd, 0x1d4c3, 1, -119893⟩, ⟨0x1d4c5, 0x1d4cf, 1, -119893⟩,
  ⟨0x1d4d0, 0x1d4e9, 1, -119919⟩, ⟨0x1d4ea, 0x1d503, 1, -119945⟩, ⟨0x1d504, 0x1d505, 1, -119971⟩,
  ⟨0x1d507, 0x1d50a, 1, -119971⟩, ⟨0x1d50d, 0x1d514, 1, -119971⟩, ⟨0x1d516, 0x1d51c, 1, -119971⟩,
  ⟨0x1d51e, 0x1d537, 1, -119997⟩, ⟨0x1d538, 0x1d539, 1, -120023⟩, ⟨0x1d53b, 0x1d53e, 1, -120023⟩,
  ⟨0x1d540, 0x1d544, 1, -120023⟩, ⟨0x1d54a, 0x1d550, 1, -120023⟩, ⟨0x1d552, 0x1d56b, 1, -120049⟩,
  ⟨0x1d56c, 0x1d585, 1, -120075⟩, ⟨0x1d586, 0x1d59f, 1, -120101⟩, ⟨0x1d5a0, 0x1d5b9, 1, -120127⟩,
  ⟨0x1d5ba, 0x1d5d3, 1, -120153⟩, ⟨0x1d5d4, 0x1d5ed, 1, -120179⟩, ⟨0x1d5ee, 0x1d607, 1, -120205⟩,
  ⟨0x1d608, 0x1d621, 1, -120231⟩, ⟨0x1d622, 0x1d63b, 1, -120257⟩, ⟨0x1d63c, 0x1d655, 1, -120283⟩,
  ⟨0x1d656, 0x1d66f, 1, -120309⟩, ⟨0x1d670, 0x1d689, 1, -120335⟩, ⟨0x1d68a, 0x1d6a3, 1, -120361⟩,
  ⟨0x1d6a8, 0x1d6b8, 1, -119543⟩, ⟨0x1d6ba, 0x1d6c0, 1, -119543⟩, ⟨0x1d6c2, 0x1d6d2, 1, -119569⟩,
  ⟨0x1d6d4, 0x1d6da, 1, -119569⟩, ⟨0x1d6e2, 0x1d6f2, 1, -119601⟩, ⟨0x1d6f4, 0x1d6fa, 1, -119601⟩,
  ⟨0x1d6fc, 0x1d70c, 1, -119627⟩, ⟨0x1d70e, 0x1d714, 1, -119627⟩, ⟨0x1d71c, 0x1d72c, 1, -119659⟩,
  ⟨0x1d72e, 0x1d734, 1, -119659⟩, ⟨0x1d736, 0x1d746, 1, -119685⟩, ⟨0x1d748, 0x1d74e, 1, -119685⟩,
  ⟨0x1d756, 0x1d766, 1, -119717⟩, ⟨0x1d768, 0x1d76e, 1, -119717⟩, ⟨0x1d770, 0x1d780, 1, -119743⟩,
  ⟨0x1d782, 0x1d788, 1, -119743⟩, ⟨0x1d790, 0x1d7a0, 1, -119775⟩, ⟨0x1d7a2, 0x1d7a8, 1, -119775⟩,
  ⟨0x1d7aa, 0x1d7ba, 1, -119801⟩, ⟨0x1d7bc, 0x1d7c2, 1, -119801⟩, ⟨0x1d7ce, 0x1d7d7, 1, -120734⟩,
  ⟨0x1d7d8, 0x1d7e1, 1, -120744⟩, ⟨0x1d7e2, 0x1d7eb, 1, -120754⟩, ⟨0x1d7ec, 0x1d7f5, 1, -120764⟩,
  ⟨0x1d7f6, 0x1d7ff, 1, -120774⟩, ⟨0x1e030, 0x1e038, 1, -121856⟩, ⟨0x1e039, 0x1e03b, 1, -121855⟩,
  ⟨0x1e03c, 0x1e046, 1, -121854⟩, ⟨0x1e048, 0x1e049, 1, -121851⟩, ⟨0x1e051, 0x1e059, 1, -121889⟩,
  ⟨0x1e05a, 0x1e05b, 1, -121888⟩, ⟨0x1e05c, 0x1e05d, 1, -121886⟩, ⟨0x1e05f, 0x1e064, 1, -121884⟩,
  ⟨0x1e065, 0x1e066, 1, -121883⟩, ⟨0x1ee00, 0x1ee01, 1, -124889⟩, ⟨0x1ee0a, 0x1ee0d, 1, -124871⟩,
  ⟨0x1ee15, 0x1ee16, 1, -124907⟩, ⟨0x1ee2a, 0x1ee2d, 1, -124903⟩, ⟨0x1ee35, 0x1ee36, 1, -124939⟩,
  ⟨0x1ee6c, 0x1ee6d, 1, -124967⟩, ⟨0x1ee75, 0x1ee76, 1, -125003⟩, ⟨0x1ee80, 0x1ee81, 1, -125017⟩,
  ⟨0x1ee84, 0x1ee85, 1, -124989⟩, ⟨0x1ee8b, 0x1ee8d, 1, -124999⟩, ⟨0x1ee95, 0x1ee96, 1, -125035⟩,
  ⟨0x1eeab, 0x1eead, 1, -125031⟩, ⟨0x1eeb5, 0x1eeb6, 1, -125067⟩, ⟨0x1f130, 0x1f149, 1, -127183⟩,
  ⟨0x1fbf0, 0x1fbf9, 1, -129984⟩]

/-- The first code point of the radicals of ideographs. -/
def radicalBase : Nat := 0x2f00

/-- The ideographs that replace the radicals from `radicalBase` on. -/
def radicalImages : Array Nat := #[
  0x4e00, 0x4e28, 0x4e36, 0x4e3f, 0x4e59, 0x4e85, 0x4e8c, 0x4ea0, 0x4eba, 0x513f, 0x5165, 0x516b,
  0x5182, 0x5196, 0x51ab, 0x51e0, 0x51f5, 0x5200, 0x529b, 0x52f9, 0x5315, 0x531a, 0x5338, 0x5341,
  0x535c, 0x5369, 0x5382, 0x53b6, 0x53c8, 0x53e3, 0x56d7, 0x571f, 0x58eb, 0x5902, 0x590a, 0x5915,
  0x5927, 0x5973, 0x5b50, 0x5b80, 0x5bf8, 0x5c0f, 0x5c22, 0x5c38, 0x5c6e, 0x5c71, 0x5ddb, 0x5de5,
  0x5df1, 0x5dfe, 0x5e72, 0x5e7a, 0x5e7f, 0x5ef4, 0x5efe, 0x5f0b, 0x5f13, 0x5f50, 0x5f61, 0x5f73,
  0x5fc3, 0x6208, 0x6236, 0x624b, 0x652f, 0x6534, 0x6587, 0x6597, 0x65a4, 0x65b9, 0x65e0, 0x65e5,
  0x66f0, 0x6708, 0x6728, 0x6b20, 0x6b62, 0x6b79, 0x6bb3, 0x6bcb, 0x6bd4, 0x6bdb, 0x6c0f, 0x6c14,
  0x6c34, 0x706b, 0x722a, 0x7236, 0x723b, 0x723f, 0x7247, 0x7259, 0x725b, 0x72ac, 0x7384, 0x7389,
  0x74dc, 0x74e6, 0x7518, 0x751f, 0x7528, 0x7530, 0x758b, 0x7592, 0x7676, 0x767d, 0x76ae, 0x76bf,
  0x76ee, 0x77db, 0x77e2, 0x77f3, 0x793a, 0x79b8, 0x79be, 0x7a74, 0x7acb, 0x7af9, 0x7c73, 0x7cf8,
  0x7f36, 0x7f51, 0x7f8a, 0x7fbd, 0x8001, 0x800c, 0x8012, 0x8033, 0x807f, 0x8089, 0x81e3, 0x81ea,
  0x81f3, 0x81fc, 0x820c, 0x821b, 0x821f, 0x826e, 0x8272, 0x8278, 0x864d, 0x866b, 0x8840, 0x884c,
  0x8863, 0x897e, 0x898b, 0x89d2, 0x8a00, 0x8c37, 0x8c46, 0x8c55, 0x8c78, 0x8c9d, 0x8d64, 0x8d70,
  0x8db3, 0x8eab, 0x8eca, 0x8f9b, 0x8fb0, 0x8fb5, 0x9091, 0x9149, 0x91c6, 0x91cc, 0x91d1, 0x9577,
  0x9580, 0x961c, 0x96b6, 0x96b9, 0x96e8, 0x9751, 0x975e, 0x9762, 0x9769, 0x97cb, 0x97ed, 0x97f3,
  0x9801, 0x98a8, 0x98db, 0x98df, 0x9996, 0x9999, 0x99ac, 0x9aa8, 0x9ad8, 0x9adf, 0x9b25, 0x9b2f,
  0x9b32, 0x9b3c, 0x9b5a, 0x9ce5, 0x9e75, 0x9e7f, 0x9ea5, 0x9ebb, 0x9ec3, 0x9ecd, 0x9ed1, 0x9ef9,
  0x9efd, 0x9f0e, 0x9f13, 0x9f20, 0x9f3b, 0x9f4a, 0x9f52, 0x9f8d, 0x9f9c, 0x9fa0]

/-- What replaces letters, signs and numbers of forms of their own. -/
def letterImages : Array (Nat × String) := #[
  (0xa0, " "), (0xa8, " \u0308"), (0xaa, "a"), (0xaf, " \u0304"), (0xb4, " \u0301"),
  (0xb5, "\u03bc"), (0xb8, " \u0327"), (0xb9, "1"), (0xba, "o"), (0xbc, "1\u20444"),
  (0xbd, "1\u20442"), (0xbe, "3\u20444"), (0x132, "ij"), (0x133, "ij"), (0x13f, "l\u00b7"),
  (0x140, "l\u00b7"), (0x149, "\u02bcn"), (0x17f, "s"), (0x1c4, "d\u017e"), (0x1c5, "d\u017e"),
  (0x1c6, "d\u017e"), (0x1c7, "lj"), (0x1c8, "lj"), (0x1c9, "lj"), (0x1ca, "nj"), (0x1cb, "nj"),
  (0x1cc, "nj"), (0x1f1, "dz"), (0x1f2, "dz"), (0x1f3, "dz"), (0x2b0, "h"), (0x2b1, "\u0266"),
  (0x2b2, "j"), (0x2b3, "r"), (0x2b4, "\u0279"), (0x2b5, "\u027b"), (0x2b6, "\u0281"),
  (0x2b7, "w"), (0x2b8, "y"), (0x2d8, " \u0306"), (0x2d9, " \u0307"), (0x2da, " \u030a"),
  (0x2db, " \u0328"), (0x2dc, " \u0303"), (0x2dd, " \u030b"), (0x2e0, "\u0263"), (0x2e1, "l"),
  (0x2e2, "s"), (0x2e3, "x"), (0x2e4, "\u0295"), (0x345, "\u03b9"), (0x37a, " \u03b9"),
  (0x384, " \u0301"), (0x3d0, "\u03b2"), (0x3d1, "\u03b8"), (0x3d2, "\u03c5"), (0x3d5, "\u03c6"),
  (0x3d6, "\u03c0"), (0x3f0, "\u03ba"), (0x3f1, "\u03c1"), (0x3f2, "\u03c3"), (0x3f5, "\u03b5"),
  (0x3f9, "\u03c3"), (0x587, "\u0565\u0582"), (0x675, "\u0627\u0674"), (0x676, "\u0648\u0674"),
  (0x677, "\u06c7\u0674"), (0x678, "\u064a\u0674"), (0xe33, "\u0e4d\u0e32"),
  (0xeb3, "\u0ecd\u0eb2"), (0xedc, "\u0eab\u0e99"), (0xedd, "\u0eab\u0ea1"), (0xf0c, "\u0f0b"),
  (0xf77, "\u0fb2\u0f71\u0f80"), (0xf79, "\u0fb3\u0f71\u0f80"), (0x10fc, "\u10dc"),
  (0x1c80, "\u0432"), (0x1c81, "\u0434"), (0x1c82, "\u043e"), (0x1c85, "\u0442"),
  (0x1c86, "\u044a"), (0x1c87, "\u0463"), (0x1c88, "\ua64b"), (0x1d2c, "a"), (0x1d2d, "\u00e6"),
  (0x1d2e, "b"), (0x1d32, "\u01dd"), (0x1d3c, "o"), (0x1d3d, "\u0223"), (0x1d3e, "p"),
  (0x1d3f, "r"), (0x1d42, "w"), (0x1d43, "a"), (0x1d46, "\u1d02"), (0x1d47, "b"),
  (0x1d4a, "\u0259"), (0x1d4d, "g"), (0x1d4f, "k"), (0x1d50, "m"), (0x1d51, "\u014b"),
  (0x1d52, "o"), (0x1d53, "\u0254"), (0x1d56, "p"), (0x1d59, "\u1d1d"), (0x1d5a, "\u026f"),
  (0x1d5b, "v"), (0x1d5c, "\u1d25"), (0x1d62, "i"), (0x1d63, "r"), (0x1d68, "\u03c1"),
  (0x1d78, "\u043d"), (0x1d9b, "\u0252"), (0x1d9c, "c"), (0x1d9d, "\u0255"), (0x1d9e, "\u00f0"),
  (0x1d9f, "\u025c"), (0x1da0, "f"), (0x1da1, "\u025f"), (0x1da2, "\u0261"), (0x1da3, "\u0265"),
  (0x1da7, "\u1d7b"), (0x1da8, "\u029d"), (0x1da9, "\u026d"), (0x1daa, "\u1d85"),
  (0x1dab, "\u029f"), (0x1dac, "\u0271"), (0x1dad, "\u0270"), (0x1db2, "\u0278"),
  (0x1db5, "\u01ab"), (0x1db8, "\u1d1c"), (0x1dbb, "z"), (0x1dbf, "\u03b8"), (0x1e9a, "a\u02be"),
  (0x1fbd, " \u0313"), (0x1fbf, " \u0313"), (0x1fc0, " \u0342"), (0x1ffe, " \u0314"),
  (0x2002, " "), (0x2003, " "), (0x2004, " "), (0x2005, " "), (0x2006, " "), (0x2007, " "),
  (0x2008, " "), (0x2009, " "), (0x200a, " "), (0x2011, "\u2010"), (0x2017, " \u0333"),
  (0x202f, " "), (0x2033, "\u2032\u2032"), (0x2034, "\u2032\u2032\u2032"),
  (0x2036, "\u2035\u2035"), (0x2037, "\u2035\u2035\u2035"), (0x203c, "!!"), (0x203e, " \u0305"),
  (0x2047, "??"), (0x2048, "?!"), (0x2049, "!?"), (0x2057, "\u2032\u2032\u2032\u2032"),
  (0x205f, " "), (0x2070, "0"), (0x2071, "i"), (0x207a, "+"), (0x207b, "\u2212"), (0x207c, "="),
  (0x207f, "n"), (0x208a, "+"), (0x208b, "\u2212"), (0x208c, "="), (0x2090, "a"), (0x2091, "e"),
  (0x2092, "o"), (0x2093, "x"), (0x2094, "\u0259"), (0x2095, "h"), (0x209a, "p"), (0x20a8, "rs"),
  (0x2100, "a/c"), (0x2101, "a/s"), (0x2102, "c"), (0x2103, "\u00b0c"), (0x2105, "c/o"),
  (0x2106, "c/u"), (0x2107, "\u025b"), (0x2109, "\u00b0f"), (0x210c, "h"), (0x210d, "h"),
  (0x210e, "h"), (0x210f, "\u0127"), (0x2110, "i"), (0x2111, "i"), (0x2112, "l"), (0x2113, "l"),
  (0x2115, "n"), (0x2116, "no"), (0x211c, "r"), (0x211d, "r"), (0x2120, "sm"), (0x2121, "tel"),
  (0x2122, "tm"), (0x2124, "z"), (0x2128, "z"), (0x212f, "e"), (0x2133, "m"), (0x2134, "o"),
  (0x2139, "i"), (0x213b, "fax"), (0x213c, "\u03c0"), (0x213d, "\u03b3"), (0x213e, "\u03b3"),
  (0x213f, "\u03c0"), (0x2140, "\u2211"), (0x2145, "d"), (0x2150, "1\u20447"),
  (0x2151, "1\u20449"), (0x2152, "1\u204410"), (0x2153, "1\u20443"), (0x2154, "2\u20443"),
  (0x2155, "1\u20445"), (0x2156, "2\u20445"), (0x2157, "3\u20445"), (0x2158, "4\u20445"),
  (0x2159, "1\u20446"), (0x215a, "5\u20446"), (0x215b, "1\u20448"), (0x215c, "3\u20448"),
  (0x215d, "5\u20448"), (0x215e, "7\u20448"), (0x215f, "1\u2044"), (0x2160, "i"), (0x2161, "ii"),
  (0x2162, "iii"), (0x2163, "iv"), (0x2164, "v"), (0x2165, "vi"), (0x2166, "vii"),
  (0x2167, "viii"), (0x2168, "ix"), (0x2169, "x"), (0x216a, "xi"), (0x216b, "xii"), (0x216c, "l"),
  (0x216f, "m"), (0x2170, "i"), (0x2171, "ii"), (0x2172, "iii"), (0x2173, "iv"), (0x2174, "v"),
  (0x2175, "vi"), (0x2176, "vii"), (0x2177, "viii"), (0x2178, "ix"), (0x2179, "x"),
  (0x217a, "xi"), (0x217b, "xii"), (0x217c, "l"), (0x217f, "m"), (0x2189, "0\u20443"),
  (0x222c, "\u222b\u222b"), (0x222d, "\u222b\u222b\u222b"), (0x222f, "\u222e\u222e"),
  (0x2230, "\u222e\u222e\u222e"), (0x2469, "10"), (0x246a, "11"), (0x246b, "12"), (0x246c, "13"),
  (0x246d, "14"), (0x246e, "15"), (0x246f, "16"), (0x2470, "17"), (0x2471, "18"), (0x2472, "19"),
  (0x2473, "20"), (0x2474, "(1)"), (0x2475, "(2)"), (0x2476, "(3)"), (0x2477, "(4)"),
  (0x2478, "(5)"), (0x2479, "(6)"), (0x247a, "(7)"), (0x247b, "(8)"), (0x247c, "(9)"),
  (0x247d, "(10)"), (0x247e, "(11)"), (0x247f, "(12)"), (0x2480, "(13)"), (0x2481, "(14)"),
  (0x2482, "(15)"), (0x2483, "(16)"), (0x2484, "(17)"), (0x2485, "(18)"), (0x2486, "(19)"),
  (0x2487, "(20)"), (0x249c, "(a)"), (0x249d, "(b)"), (0x249e, "(c)"), (0x249f, "(d)"),
  (0x24a0, "(e)"), (0x24a1, "(f)"), (0x24a2, "(g)"), (0x24a3, "(h)"), (0x24a4, "(i)"),
  (0x24a5, "(j)"), (0x24a6, "(k)"), (0x24a7, "(l)"), (0x24a8, "(m)"), (0x24a9, "(n)"),
  (0x24aa, "(o)"), (0x24ab, "(p)"), (0x24ac, "(q)"), (0x24ad, "(r)"), (0x24ae, "(s)"),
  (0x24af, "(t)"), (0x24b0, "(u)"), (0x24b1, "(v)"), (0x24b2, "(w)"), (0x24b3, "(x)"),
  (0x24b4, "(y)"), (0x24b5, "(z)"), (0x24ea, "0"), (0x2a0c, "\u222b\u222b\u222b\u222b"),
  (0x2a74, "::="), (0x2a75, "=="), (0x2a76, "==="), (0x2c7c, "j"), (0x2c7d, "v"),
  (0x2d6f, "\u2d61"), (0x2e9f, "\u6bcd"), (0x2ef3, "\u9f9f")]

/-- What replaces signs and letters of the width of ideographs. -/
def squareImages : Array (Nat × String) := #[
  (0x3000, " "), (0x3002, "."), (0x3036, "\u3012"), (0x3038, "\u5341"), (0x309b, " \u3099"),
  (0x309c, " \u309a"), (0x309f, "\u3088\u308a"), (0x30ff, "\u30b3\u30c8"), (0x3133, "\u11aa"),
  (0x3134, "\u1102"), (0x3140, "\u111a"), (0x3144, "\u1121"), (0x3169, "\u11cc"),
  (0x316a, "\u11ce"), (0x316b, "\u11d3"), (0x316c, "\u11d7"), (0x316d, "\u11d9"),
  (0x316e, "\u111c"), (0x316f, "\u11dd"), (0x3170, "\u11df"), (0x3173, "\u1120"),
  (0x3176, "\u1127"), (0x3177, "\u1129"), (0x317d, "\u1132"), (0x317e, "\u1136"),
  (0x317f, "\u1140"), (0x3180, "\u1147"), (0x3181, "\u114c"), (0x3189, "\u1188"),
  (0x318c, "\u1194"), (0x318d, "\u119e"), (0x318e, "\u11a1"), (0x3192, "\u4e00"),
  (0x3193, "\u4e8c"), (0x3194, "\u4e09"), (0x3195, "\u56db"), (0x3196, "\u4e0a"),
  (0x3197, "\u4e2d"), (0x3198, "\u4e0b"), (0x3199, "\u7532"), (0x319a, "\u4e59"),
  (0x319b, "\u4e19"), (0x319c, "\u4e01"), (0x319d, "\u5929"), (0x319e, "\u5730"),
  (0x319f, "\u4eba"), (0x3200, "(\u1100)"), (0x3201, "(\u1102)"), (0x3202, "(\u1103)"),
  (0x3203, "(\u1105)"), (0x3204, "(\u1106)"), (0x3205, "(\u1107)"), (0x3206, "(\u1109)"),
  (0x3207, "(\u110b)"), (0x3208, "(\u110c)"), (0x3209, "(\u110e)"), (0x320a, "(\u110f)"),
  (0x320b, "(\u1110)"), (0x320c, "(\u1111)"), (0x320d, "(\u1112)"), (0x320e, "(\uac00)"),
  (0x320f, "(\ub098)"), (0x3210, "(\ub2e4)"), (0x3211, "(\ub77c)"), (0x3212, "(\ub9c8)"),
  (0x3213, "(\ubc14)"), (0x3214, "(\uc0ac)"), (0x3215, "(\uc544)"), (0x3216, "(\uc790)"),
  (0x3217, "(\ucc28)"), (0x3218, "(\uce74)"), (0x3219, "(\ud0c0)"), (0x321a, "(\ud30c)"),
  (0x321b, "(\ud558)"), (0x321c, "(\uc8fc)"), (0x321d, "(\uc624\uc804)"),
  (0x321e, "(\uc624\ud6c4)"), (0x3220, "(\u4e00)"), (0x3221, "(\u4e8c)"), (0x3222, "(\u4e09)"),
  (0x3223, "(\u56db)"), (0x3224, "(\u4e94)"), (0x3225, "(\u516d)"), (0x3226, "(\u4e03)"),
  (0x3227, "(\u516b)"), (0x3228, "(\u4e5d)"), (0x3229, "(\u5341)"), (0x322a, "(\u6708)"),
  (0x322b, "(\u706b)"), (0x322c, "(\u6c34)"), (0x322d, "(\u6728)"), (0x322e, "(\u91d1)"),
  (0x322f, "(\u571f)"), (0x3230, "(\u65e5)"), (0x3231, "(\u682a)"), (0x3232, "(\u6709)"),
  (0x3233, "(\u793e)"), (0x3234, "(\u540d)"), (0x3235, "(\u7279)"), (0x3236, "(\u8ca1)"),
  (0x3237, "(\u795d)"), (0x3238, "(\u52b4)"), (0x3239, "(\u4ee3)"), (0x323a, "(\u547c)"),
  (0x323b, "(\u5b66)"), (0x323c, "(\u76e3)"), (0x323d, "(\u4f01)"), (0x323e, "(\u8cc7)"),
  (0x323f, "(\u5354)"), (0x3240, "(\u796d)"), (0x3241, "(\u4f11)"), (0x3242, "(\u81ea)"),
  (0x3243, "(\u81f3)"), (0x3244, "\u554f"), (0x3245, "\u5e7c"), (0x3246, "\u6587"),
  (0x3247, "\u7b8f"), (0x3250, "pte"), (0x3251, "21"), (0x3252, "22"), (0x3253, "23"),
  (0x3254, "24"), (0x3255, "25"), (0x3256, "26"), (0x3257, "27"), (0x3258, "28"), (0x3259, "29"),
  (0x325a, "30"), (0x325b, "31"), (0x325c, "32"), (0x325d, "33"), (0x325e, "34"), (0x325f, "35"),
  (0x3260, "\u1100"), (0x3266, "\u1109"), (0x326e, "\uac00"), (0x326f, "\ub098"),
  (0x3270, "\ub2e4"), (0x3271, "\ub77c"), (0x3272, "\ub9c8"), (0x3273, "\ubc14"),
  (0x3274, "\uc0ac"), (0x3275, "\uc544"), (0x3276, "\uc790"), (0x3277, "\ucc28"),
  (0x3278, "\uce74"), (0x3279, "\ud0c0"), (0x327a, "\ud30c"), (0x327b, "\ud558"),
  (0x327c, "\ucc38\uace0"), (0x327d, "\uc8fc\uc758"), (0x327e, "\uc6b0"), (0x3280, "\u4e00"),
  (0x3281, "\u4e8c"), (0x3282, "\u4e09"), (0x3283, "\u56db"), (0x3284, "\u4e94"),
  (0x3285, "\u516d"), (0x3286, "\u4e03"), (0x3287, "\u516b"), (0x3288, "\u4e5d"),
  (0x3289, "\u5341"), (0x328a, "\u6708"), (0x328b, "\u706b"), (0x328c, "\u6c34"),
  (0x328d, "\u6728"), (0x328e, "\u91d1"), (0x328f, "\u571f"), (0x3290, "\u65e5"),
  (0x3291, "\u682a"), (0x3292, "\u6709"), (0x3293, "\u793e"), (0x3294, "\u540d"),
  (0x3295, "\u7279"), (0x3296, "\u8ca1"), (0x3297, "\u795d"), (0x3298, "\u52b4"),
  (0x3299, "\u79d8"), (0x329a, "\u7537"), (0x329b, "\u5973"), (0x329c, "\u9069"),
  (0x329d, "\u512a"), (0x329e, "\u5370"), (0x329f, "\u6ce8"), (0x32a0, "\u9805"),
  (0x32a1, "\u4f11"), (0x32a2, "\u5199"), (0x32a3, "\u6b63"), (0x32a4, "\u4e0a"),
  (0x32a5, "\u4e2d"), (0x32a6, "\u4e0b"), (0x32a7, "\u5de6"), (0x32a8, "\u53f3"),
  (0x32a9, "\u533b"), (0x32aa, "\u5b97"), (0x32ab, "\u5b66"), (0x32ac, "\u76e3"),
  (0x32ad, "\u4f01"), (0x32ae, "\u8cc7"), (0x32af, "\u5354"), (0x32b0, "\u591c"), (0x32b1, "36"),
  (0x32b2, "37"), (0x32b3, "38"), (0x32b4, "39"), (0x32b5, "40"), (0x32b6, "41"), (0x32b7, "42"),
  (0x32b8, "43"), (0x32b9, "44"), (0x32ba, "45"), (0x32bb, "46"), (0x32bc, "47"), (0x32bd, "48"),
  (0x32be, "49"), (0x32bf, "50"), (0x32c0, "1\u6708"), (0x32c1, "2\u6708"), (0x32c2, "3\u6708"),
  (0x32c3, "4\u6708"), (0x32c4, "5\u6708"), (0x32c5, "6\u6708"), (0x32c6, "7\u6708"),
  (0x32c7, "8\u6708"), (0x32c8, "9\u6708"), (0x32c9, "10\u6708"), (0x32ca, "11\u6708"),
  (0x32cb, "12\u6708"), (0x32cc, "hg"), (0x32cd, "erg"), (0x32ce, "ev"), (0x32cf, "ltd"),
  (0x32d0, "\u30a2"), (0x32d1, "\u30a4"), (0x32d2, "\u30a6"), (0x32d3, "\u30a8"),
  (0x32d6, "\u30ad"), (0x32d7, "\u30af"), (0x32d8, "\u30b1"), (0x32d9, "\u30b3"),
  (0x32da, "\u30b5"), (0x32db, "\u30b7"), (0x32dc, "\u30b9"), (0x32dd, "\u30bb"),
  (0x32de, "\u30bd"), (0x32df, "\u30bf"), (0x32e0, "\u30c1"), (0x32e1, "\u30c4"),
  (0x32e2, "\u30c6"), (0x32e3, "\u30c8"), (0x32ea, "\u30d2"), (0x32eb, "\u30d5"),
  (0x32ec, "\u30d8"), (0x32ed, "\u30db"), (0x32f3, "\u30e4"), (0x32f4, "\u30e6"),
  (0x32ff, "\u4ee4\u548c"), (0x3300, "\u30a2\u30d1\u30fc\u30c8"),
  (0x3301, "\u30a2\u30eb\u30d5\u30a1"), (0x3302, "\u30a2\u30f3\u30da\u30a2"),
  (0x3303, "\u30a2\u30fc\u30eb"), (0x3304, "\u30a4\u30cb\u30f3\u30b0"),
  (0x3305, "\u30a4\u30f3\u30c1"), (0x3306, "\u30a6\u30a9\u30f3"),
  (0x3307, "\u30a8\u30b9\u30af\u30fc\u30c9"), (0x3308, "\u30a8\u30fc\u30ab\u30fc"),
  (0x3309, "\u30aa\u30f3\u30b9"), (0x330a, "\u30aa\u30fc\u30e0"), (0x330b, "\u30ab\u30a4\u30ea"),
  (0x330c, "\u30ab\u30e9\u30c3\u30c8"), (0x330d, "\u30ab\u30ed\u30ea\u30fc"),
  (0x330e, "\u30ac\u30ed\u30f3"), (0x330f, "\u30ac\u30f3\u30de"), (0x3310, "\u30ae\u30ac"),
  (0x3311, "\u30ae\u30cb\u30fc"), (0x3312, "\u30ad\u30e5\u30ea\u30fc"),
  (0x3313, "\u30ae\u30eb\u30c0\u30fc"), (0x3314, "\u30ad\u30ed"),
  (0x3315, "\u30ad\u30ed\u30b0\u30e9\u30e0"), (0x3316, "\u30ad\u30ed\u30e1\u30fc\u30c8\u30eb"),
  (0x3317, "\u30ad\u30ed\u30ef\u30c3\u30c8"), (0x3318, "\u30b0\u30e9\u30e0"),
  (0x3319, "\u30b0\u30e9\u30e0\u30c8\u30f3"), (0x331a, "\u30af\u30eb\u30bc\u30a4\u30ed"),
  (0x331b, "\u30af\u30ed\u30fc\u30cd"), (0x331c, "\u30b1\u30fc\u30b9"),
  (0x331d, "\u30b3\u30eb\u30ca"), (0x331e, "\u30b3\u30fc\u30dd"),
  (0x331f, "\u30b5\u30a4\u30af\u30eb"), (0x3320, "\u30b5\u30f3\u30c1\u30fc\u30e0"),
  (0x3321, "\u30b7\u30ea\u30f3\u30b0"), (0x3322, "\u30bb\u30f3\u30c1"),
  (0x3323, "\u30bb\u30f3\u30c8"), (0x3324, "\u30c0\u30fc\u30b9"), (0x3325, "\u30c7\u30b7"),
  (0x3326, "\u30c9\u30eb"), (0x3327, "\u30c8\u30f3"), (0x3328, "\u30ca\u30ce"),
  (0x3329, "\u30ce\u30c3\u30c8"), (0x332a, "\u30cf\u30a4\u30c4"),
  (0x332b, "\u30d1\u30fc\u30bb\u30f3\u30c8"), (0x332c, "\u30d1\u30fc\u30c4"),
  (0x332d, "\u30d0\u30fc\u30ec\u30eb"), (0x332e, "\u30d4\u30a2\u30b9\u30c8\u30eb"),
  (0x332f, "\u30d4\u30af\u30eb"), (0x3330, "\u30d4\u30b3"), (0x3331, "\u30d3\u30eb"),
  (0x3332, "\u30d5\u30a1\u30e9\u30c3\u30c9"), (0x3333, "\u30d5\u30a3\u30fc\u30c8"),
  (0x3334, "\u30d6\u30c3\u30b7\u30a7\u30eb"), (0x3335, "\u30d5\u30e9\u30f3"),
  (0x3336, "\u30d8\u30af\u30bf\u30fc\u30eb"), (0x3337, "\u30da\u30bd"),
  (0x3338, "\u30da\u30cb\u30d2"), (0x3339, "\u30d8\u30eb\u30c4"), (0x333a, "\u30da\u30f3\u30b9"),
  (0x333b, "\u30da\u30fc\u30b8"), (0x333c, "\u30d9\u30fc\u30bf"),
  (0x333d, "\u30dd\u30a4\u30f3\u30c8"), (0x333e, "\u30dc\u30eb\u30c8"), (0x333f, "\u30db\u30f3"),
  (0x3340, "\u30dd\u30f3\u30c9"), (0x3341, "\u30db\u30fc\u30eb"), (0x3342, "\u30db\u30fc\u30f3"),
  (0x3343, "\u30de\u30a4\u30af\u30ed"), (0x3344, "\u30de\u30a4\u30eb"),
  (0x3345, "\u30de\u30c3\u30cf"), (0x3346, "\u30de\u30eb\u30af"),
  (0x3347, "\u30de\u30f3\u30b7\u30e7\u30f3"), (0x3348, "\u30df\u30af\u30ed\u30f3"),
  (0x3349, "\u30df\u30ea"), (0x334a, "\u30df\u30ea\u30d0\u30fc\u30eb"), (0x334b, "\u30e1\u30ac"),
  (0x334c, "\u30e1\u30ac\u30c8\u30f3"), (0x334d, "\u30e1\u30fc\u30c8\u30eb"),
  (0x334e, "\u30e4\u30fc\u30c9"), (0x334f, "\u30e4\u30fc\u30eb"), (0x3350, "\u30e6\u30a2\u30f3"),
  (0x3351, "\u30ea\u30c3\u30c8\u30eb"), (0x3352, "\u30ea\u30e9"), (0x3353, "\u30eb\u30d4\u30fc"),
  (0x3354, "\u30eb\u30fc\u30d6\u30eb"), (0x3355, "\u30ec\u30e0"),
  (0x3356, "\u30ec\u30f3\u30c8\u30b2\u30f3"), (0x3357, "\u30ef\u30c3\u30c8"), (0x3358, "0\u70b9"),
  (0x3359, "1\u70b9"), (0x335a, "2\u70b9"), (0x335b, "3\u70b9"), (0x335c, "4\u70b9"),
  (0x335d, "5\u70b9"), (0x335e, "6\u70b9"), (0x335f, "7\u70b9"), (0x3360, "8\u70b9"),
  (0x3361, "9\u70b9"), (0x3362, "10\u70b9"), (0x3363, "11\u70b9"), (0x3364, "12\u70b9"),
  (0x3365, "13\u70b9"), (0x3366, "14\u70b9"), (0x3367, "15\u70b9"), (0x3368, "16\u70b9"),
  (0x3369, "17\u70b9"), (0x336a, "18\u70b9"), (0x336b, "19\u70b9"), (0x336c, "20\u70b9"),
  (0x336d, "21\u70b9"), (0x336e, "22\u70b9"), (0x336f, "23\u70b9"), (0x3370, "24\u70b9"),
  (0x3371, "hpa"), (0x3372, "da"), (0x3373, "au"), (0x3374, "bar"), (0x3375, "ov"),
  (0x3376, "pc"), (0x3377, "dm"), (0x3378, "dm2"), (0x3379, "dm3"), (0x337a, "iu"),
  (0x337b, "\u5e73\u6210"), (0x337c, "\u662d\u548c"), (0x337d, "\u5927\u6b63"),
  (0x337e, "\u660e\u6cbb"), (0x337f, "\u682a\u5f0f\u4f1a\u793e"), (0x3380, "pa"), (0x3381, "na"),
  (0x3382, "\u03bca"), (0x3383, "ma"), (0x3384, "ka"), (0x3385, "kb"), (0x3386, "mb"),
  (0x3387, "gb"), (0x3388, "cal"), (0x3389, "kcal"), (0x338a, "pf"), (0x338b, "nf"),
  (0x338c, "\u03bcf"), (0x338d, "\u03bcg"), (0x338e, "mg"), (0x338f, "kg"), (0x3390, "hz"),
  (0x3391, "khz"), (0x3392, "mhz"), (0x3393, "ghz"), (0x3394, "thz"), (0x3395, "\u03bcl"),
  (0x3396, "ml"), (0x3397, "dl"), (0x3398, "kl"), (0x3399, "fm"), (0x339a, "nm"),
  (0x339b, "\u03bcm"), (0x339c, "mm"), (0x339d, "cm"), (0x339e, "km"), (0x339f, "mm2"),
  (0x33a0, "cm2"), (0x33a1, "m2"), (0x33a2, "km2"), (0x33a3, "mm3"), (0x33a4, "cm3"),
  (0x33a5, "m3"), (0x33a6, "km3"), (0x33a7, "m\u2215s"), (0x33a8, "m\u2215s2"), (0x33a9, "pa"),
  (0x33aa, "kpa"), (0x33ab, "mpa"), (0x33ac, "gpa"), (0x33ad, "rad"), (0x33ae, "rad\u2215s"),
  (0x33af, "rad\u2215s2"), (0x33b0, "ps"), (0x33b1, "ns"), (0x33b2, "\u03bcs"), (0x33b3, "ms"),
  (0x33b4, "pv"), (0x33b5, "nv"), (0x33b6, "\u03bcv"), (0x33b7, "mv"), (0x33b8, "kv"),
  (0x33b9, "mv"), (0x33ba, "pw"), (0x33bb, "nw"), (0x33bc, "\u03bcw"), (0x33bd, "mw"),
  (0x33be, "kw"), (0x33bf, "mw"), (0x33c0, "k\u03c9"), (0x33c1, "m\u03c9"), (0x33c3, "bq"),
  (0x33c4, "cc"), (0x33c5, "cd"), (0x33c6, "c\u2215kg"), (0x33c8, "db"), (0x33c9, "gy"),
  (0x33ca, "ha"), (0x33cb, "hp"), (0x33cc, "in"), (0x33cd, "kk"), (0x33ce, "km"), (0x33cf, "kt"),
  (0x33d0, "lm"), (0x33d1, "ln"), (0x33d2, "log"), (0x33d3, "lx"), (0x33d4, "mb"),
  (0x33d5, "mil"), (0x33d6, "mol"), (0x33d7, "ph"), (0x33d9, "ppm"), (0x33da, "pr"),
  (0x33db, "sr"), (0x33dc, "sv"), (0x33dd, "wb"), (0x33de, "v\u2215m"), (0x33df, "a\u2215m"),
  (0x33e0, "1\u65e5"), (0x33e1, "2\u65e5"), (0x33e2, "3\u65e5"), (0x33e3, "4\u65e5"),
  (0x33e4, "5\u65e5"), (0x33e5, "6\u65e5"), (0x33e6, "7\u65e5"), (0x33e7, "8\u65e5"),
  (0x33e8, "9\u65e5"), (0x33e9, "10\u65e5"), (0x33ea, "11\u65e5"), (0x33eb, "12\u65e5"),
  (0x33ec, "13\u65e5"), (0x33ed, "14\u65e5"), (0x33ee, "15\u65e5"), (0x33ef, "16\u65e5"),
  (0x33f0, "17\u65e5"), (0x33f1, "18\u65e5"), (0x33f2, "19\u65e5"), (0x33f3, "20\u65e5"),
  (0x33f4, "21\u65e5"), (0x33f5, "22\u65e5"), (0x33f6, "23\u65e5"), (0x33f7, "24\u65e5"),
  (0x33f8, "25\u65e5"), (0x33f9, "26\u65e5"), (0x33fa, "27\u65e5"), (0x33fb, "28\u65e5"),
  (0x33fc, "29\u65e5"), (0x33fd, "30\u65e5"), (0x33fe, "31\u65e5"), (0x33ff, "gal")]

/-- What replaces forms of Arabic letters, and groups of such letters. -/
def arabicImages : Array (Nat × String) := #[
  (0xfb50, "\u0671"), (0xfb51, "\u0671"), (0xfb52, "\u067b"), (0xfb53, "\u067b"),
  (0xfb54, "\u067b"), (0xfb55, "\u067b"), (0xfb56, "\u067e"), (0xfb57, "\u067e"),
  (0xfb58, "\u067e"), (0xfb59, "\u067e"), (0xfb5a, "\u0680"), (0xfb5b, "\u0680"),
  (0xfb5c, "\u0680"), (0xfb5d, "\u0680"), (0xfb5e, "\u067a"), (0xfb5f, "\u067a"),
  (0xfb60, "\u067a"), (0xfb61, "\u067a"), (0xfb62, "\u067f"), (0xfb63, "\u067f"),
  (0xfb64, "\u067f"), (0xfb65, "\u067f"), (0xfb66, "\u0679"), (0xfb67, "\u0679"),
  (0xfb68, "\u0679"), (0xfb69, "\u0679"), (0xfb6a, "\u06a4"), (0xfb6b, "\u06a4"),
  (0xfb6c, "\u06a4"), (0xfb6d, "\u06a4"), (0xfb6e, "\u06a6"), (0xfb6f, "\u06a6"),
  (0xfb70, "\u06a6"), (0xfb71, "\u06a6"), (0xfb72, "\u0684"), (0xfb73, "\u0684"),
  (0xfb74, "\u0684"), (0xfb75, "\u0684"), (0xfb76, "\u0683"), (0xfb77, "\u0683"),
  (0xfb78, "\u0683"), (0xfb79, "\u0683"), (0xfb7a, "\u0686"), (0xfb7b, "\u0686"),
  (0xfb7c, "\u0686"), (0xfb7f, "\u0687"), (0xfb80, "\u0687"), (0xfb81, "\u0687"),
  (0xfb82, "\u068d"), (0xfb83, "\u068d"), (0xfb84, "\u068c"), (0xfb85, "\u068c"),
  (0xfb86, "\u068e"), (0xfb87, "\u068e"), (0xfb88, "\u0688"), (0xfb89, "\u0688"),
  (0xfb8a, "\u0698"), (0xfb8b, "\u0698"), (0xfb8c, "\u0691"), (0xfb8d, "\u0691"),
  (0xfb8e, "\u06a9"), (0xfb8f, "\u06a9"), (0xfb90, "\u06a9"), (0xfb91, "\u06a9"),
  (0xfb92, "\u06af"), (0xfb93, "\u06af"), (0xfb94, "\u06af"), (0xfb95, "\u06af"),
  (0xfb96, "\u06b3"), (0xfb97, "\u06b3"), (0xfb98, "\u06b3"), (0xfb99, "\u06b3"),
  (0xfb9a, "\u06b1"), (0xfb9b, "\u06b1"), (0xfb9c, "\u06b1"), (0xfb9d, "\u06b1"),
  (0xfb9e, "\u06ba"), (0xfba1, "\u06bb"), (0xfba2, "\u06bb"), (0xfba3, "\u06bb"),
  (0xfba4, "\u06c0"), (0xfba7, "\u06c1"), (0xfba8, "\u06c1"), (0xfba9, "\u06c1"),
  (0xfbaa, "\u06be"), (0xfbab, "\u06be"), (0xfbac, "\u06be"), (0xfbad, "\u06be"),
  (0xfbae, "\u06d2"), (0xfbb1, "\u06d3"), (0xfbd3, "\u06ad"), (0xfbd4, "\u06ad"),
  (0xfbd5, "\u06ad"), (0xfbd6, "\u06ad"), (0xfbd7, "\u06c7"), (0xfbd8, "\u06c7"),
  (0xfbd9, "\u06c6"), (0xfbda, "\u06c6"), (0xfbdb, "\u06c8"), (0xfbdc, "\u06c8"),
  (0xfbdd, "\u06c7\u0674"), (0xfbde, "\u06cb"), (0xfbdf, "\u06cb"), (0xfbe0, "\u06c5"),
  (0xfbe1, "\u06c5"), (0xfbe2, "\u06c9"), (0xfbe3, "\u06c9"), (0xfbe4, "\u06d0"),
  (0xfbe5, "\u06d0"), (0xfbe6, "\u06d0"), (0xfbe7, "\u06d0"), (0xfbe8, "\u0649"),
  (0xfbe9, "\u0649"), (0xfbea, "\u0626\u0627"), (0xfbeb, "\u0626\u0627"),
  (0xfbec, "\u0626\u06d5"), (0xfbed, "\u0626\u06d5"), (0xfbee, "\u0626\u0648"),
  (0xfbef, "\u0626\u0648"), (0xfbf0, "\u0626\u06c7"), (0xfbf1, "\u0626\u06c7"),
  (0xfbf2, "\u0626\u06c6"), (0xfbf3, "\u0626\u06c6"), (0xfbf4, "\u0626\u06c8"),
  (0xfbf5, "\u0626\u06c8"), (0xfbf6, "\u0626\u06d0"), (0xfbf7, "\u0626\u06d0"),
  (0xfbf8, "\u0626\u06d0"), (0xfbf9, "\u0626\u0649"), (0xfbfa, "\u0626\u0649"),
  (0xfbfb, "\u0626\u0649"), (0xfbfc, "\u06cc"), (0xfbfd, "\u06cc"), (0xfbfe, "\u06cc"),
  (0xfbff, "\u06cc"), (0xfc00, "\u0626\u062c"), (0xfc01, "\u0626\u062d"),
  (0xfc02, "\u0626\u0645"), (0xfc03, "\u0626\u0649"), (0xfc04, "\u0626\u064a"),
  (0xfc05, "\u0628\u062c"), (0xfc06, "\u0628\u062d"), (0xfc07, "\u0628\u062e"),
  (0xfc08, "\u0628\u0645"), (0xfc09, "\u0628\u0649"), (0xfc0a, "\u0628\u064a"),
  (0xfc0b, "\u062a\u062c"), (0xfc0c, "\u062a\u062d"), (0xfc0d, "\u062a\u062e"),
  (0xfc0e, "\u062a\u0645"), (0xfc0f, "\u062a\u0649"), (0xfc10, "\u062a\u064a"),
  (0xfc11, "\u062b\u062c"), (0xfc12, "\u062b\u0645"), (0xfc13, "\u062b\u0649"),
  (0xfc14, "\u062b\u064a"), (0xfc15, "\u062c\u062d"), (0xfc16, "\u062c\u0645"),
  (0xfc17, "\u062d\u062c"), (0xfc18, "\u062d\u0645"), (0xfc19, "\u062e\u062c"),
  (0xfc1a, "\u062e\u062d"), (0xfc1b, "\u062e\u0645"), (0xfc1c, "\u0633\u062c"),
  (0xfc1d, "\u0633\u062d"), (0xfc1e, "\u0633\u062e"), (0xfc1f, "\u0633\u0645"),
  (0xfc20, "\u0635\u062d"), (0xfc21, "\u0635\u0645"), (0xfc22, "\u0636\u062c"),
  (0xfc23, "\u0636\u062d"), (0xfc24, "\u0636\u062e"), (0xfc25, "\u0636\u0645"),
  (0xfc26, "\u0637\u062d"), (0xfc27, "\u0637\u0645"), (0xfc28, "\u0638\u0645"),
  (0xfc29, "\u0639\u062c"), (0xfc2a, "\u0639\u0645"), (0xfc2b, "\u063a\u062c"),
  (0xfc2c, "\u063a\u0645"), (0xfc2d, "\u0641\u062c"), (0xfc2e, "\u0641\u062d"),
  (0xfc2f, "\u0641\u062e"), (0xfc30, "\u0641\u0645"), (0xfc31, "\u0641\u0649"),
  (0xfc32, "\u0641\u064a"), (0xfc33, "\u0642\u062d"), (0xfc34, "\u0642\u0645"),
  (0xfc35, "\u0642\u0649"), (0xfc36, "\u0642\u064a"), (0xfc37, "\u0643\u0627"),
  (0xfc38, "\u0643\u062c"), (0xfc39, "\u0643\u062d"), (0xfc3a, "\u0643\u062e"),
  (0xfc3b, "\u0643\u0644"), (0xfc3c, "\u0643\u0645"), (0xfc3d, "\u0643\u0649"),
  (0xfc3e, "\u0643\u064a"), (0xfc3f, "\u0644\u062c"), (0xfc40, "\u0644\u062d"),
  (0xfc41, "\u0644\u062e"), (0xfc42, "\u0644\u0645"), (0xfc43, "\u0644\u0649"),
  (0xfc44, "\u0644\u064a"), (0xfc45, "\u0645\u062c"), (0xfc46, "\u0645\u062d"),
  (0xfc47, "\u0645\u062e"), (0xfc48, "\u0645\u0645"), (0xfc49, "\u0645\u0649"),
  (0xfc4a, "\u0645\u064a"), (0xfc4b, "\u0646\u062c"), (0xfc4c, "\u0646\u062d"),
  (0xfc4d, "\u0646\u062e"), (0xfc4e, "\u0646\u0645"), (0xfc4f, "\u0646\u0649"),
  (0xfc50, "\u0646\u064a"), (0xfc51, "\u0647\u062c"), (0xfc52, "\u0647\u0645"),
  (0xfc53, "\u0647\u0649"), (0xfc54, "\u0647\u064a"), (0xfc55, "\u064a\u062c"),
  (0xfc56, "\u064a\u062d"), (0xfc57, "\u064a\u062e"), (0xfc58, "\u064a\u0645"),
  (0xfc59, "\u064a\u0649"), (0xfc5a, "\u064a\u064a"), (0xfc5b, "\u0630\u0670"),
  (0xfc5c, "\u0631\u0670"), (0xfc5d, "\u0649\u0670"), (0xfc5e, " \u064c\u0651"),
  (0xfc5f, " \u064d\u0651"), (0xfc60, " \u064e\u0651"), (0xfc61, " \u064f\u0651"),
  (0xfc62, " \u0650\u0651"), (0xfc63, " \u0651\u0670"), (0xfc64, "\u0626\u0631"),
  (0xfc65, "\u0626\u0632"), (0xfc66, "\u0626\u0645"), (0xfc67, "\u0626\u0646"),
  (0xfc68, "\u0626\u0649"), (0xfc69, "\u0626\u064a"), (0xfc6a, "\u0628\u0631"),
  (0xfc6b, "\u0628\u0632"), (0xfc6c, "\u0628\u0645"), (0xfc6d, "\u0628\u0646"),
  (0xfc6e, "\u0628\u0649"), (0xfc6f, "\u0628\u064a"), (0xfc70, "\u062a\u0631"),
  (0xfc71, "\u062a\u0632"), (0xfc72, "\u062a\u0645"), (0xfc73, "\u062a\u0646"),
  (0xfc74, "\u062a\u0649"), (0xfc75, "\u062a\u064a"), (0xfc76, "\u062b\u0631"),
  (0xfc77, "\u062b\u0632"), (0xfc78, "\u062b\u0645"), (0xfc79, "\u062b\u0646"),
  (0xfc7a, "\u062b\u0649"), (0xfc7b, "\u062b\u064a"), (0xfc7c, "\u0641\u0649"),
  (0xfc7d, "\u0641\u064a"), (0xfc7e, "\u0642\u0649"), (0xfc7f, "\u0642\u064a"),
  (0xfc80, "\u0643\u0627"), (0xfc81, "\u0643\u0644"), (0xfc82, "\u0643\u0645"),
  (0xfc83, "\u0643\u0649"), (0xfc84, "\u0643\u064a"), (0xfc85, "\u0644\u0645"),
  (0xfc86, "\u0644\u0649"), (0xfc87, "\u0644\u064a"), (0xfc88, "\u0645\u0627"),
  (0xfc89, "\u0645\u0645"), (0xfc8a, "\u0646\u0631"), (0xfc8b, "\u0646\u0632"),
  (0xfc8c, "\u0646\u0645"), (0xfc8d, "\u0646\u0646"), (0xfc8e, "\u0646\u0649"),
  (0xfc8f, "\u0646\u064a"), (0xfc90, "\u0649\u0670"), (0xfc91, "\u064a\u0631"),
  (0xfc92, "\u064a\u0632"), (0xfc93, "\u064a\u0645"), (0xfc94, "\u064a\u0646"),
  (0xfc95, "\u064a\u0649"), (0xfc96, "\u064a\u064a"), (0xfc97, "\u0626\u062c"),
  (0xfc98, "\u0626\u062d"), (0xfc99, "\u0626\u062e"), (0xfc9a, "\u0626\u0645"),
  (0xfc9b, "\u0626\u0647"), (0xfc9c, "\u0628\u062c"), (0xfc9d, "\u0628\u062d"),
  (0xfc9e, "\u0628\u062e"), (0xfc9f, "\u0628\u0645"), (0xfca0, "\u0628\u0647"),
  (0xfca1, "\u062a\u062c"), (0xfca2, "\u062a\u062d"), (0xfca3, "\u062a\u062e"),
  (0xfca4, "\u062a\u0645"), (0xfca5, "\u062a\u0647"), (0xfca6, "\u062b\u0645"),
  (0xfca7, "\u062c\u062d"), (0xfca8, "\u062c\u0645"), (0xfca9, "\u062d\u062c"),
  (0xfcaa, "\u062d\u0645"), (0xfcab, "\u062e\u062c"), (0xfcac, "\u062e\u0645"),
  (0xfcad, "\u0633\u062c"), (0xfcae, "\u0633\u062d"), (0xfcaf, "\u0633\u062e"),
  (0xfcb0, "\u0633\u0645"), (0xfcb1, "\u0635\u062d"), (0xfcb2, "\u0635\u062e"),
  (0xfcb3, "\u0635\u0645"), (0xfcb4, "\u0636\u062c"), (0xfcb5, "\u0636\u062d"),
  (0xfcb6, "\u0636\u062e"), (0xfcb7, "\u0636\u0645"), (0xfcb8, "\u0637\u062d"),
  (0xfcb9, "\u0638\u0645"), (0xfcba, "\u0639\u062c"), (0xfcbb, "\u0639\u0645"),
  (0xfcbc, "\u063a\u062c"), (0xfcbd, "\u063a\u0645"), (0xfcbe, "\u0641\u062c"),
  (0xfcbf, "\u0641\u062d"), (0xfcc0, "\u0641\u062e"), (0xfcc1, "\u0641\u0645"),
  (0xfcc2, "\u0642\u062d"), (0xfcc3, "\u0642\u0645"), (0xfcc4, "\u0643\u062c"),
  (0xfcc5, "\u0643\u062d"), (0xfcc6, "\u0643\u062e"), (0xfcc7, "\u0643\u0644"),
  (0xfcc8, "\u0643\u0645"), (0xfcc9, "\u0644\u062c"), (0xfcca, "\u0644\u062d"),
  (0xfccb, "\u0644\u062e"), (0xfccc, "\u0644\u0645"), (0xfccd, "\u0644\u0647"),
  (0xfcce, "\u0645\u062c"), (0xfccf, "\u0645\u062d"), (0xfcd0, "\u0645\u062e"),
  (0xfcd1, "\u0645\u0645"), (0xfcd2, "\u0646\u062c"), (0xfcd3, "\u0646\u062d"),
  (0xfcd4, "\u0646\u062e"), (0xfcd5, "\u0646\u0645"), (0xfcd6, "\u0646\u0647"),
  (0xfcd7, "\u0647\u062c"), (0xfcd8, "\u0647\u0645"), (0xfcd9, "\u0647\u0670"),
  (0xfcda, "\u064a\u062c"), (0xfcdb, "\u064a\u062d"), (0xfcdc, "\u064a\u062e"),
  (0xfcdd, "\u064a\u0645"), (0xfcde, "\u064a\u0647"), (0xfcdf, "\u0626\u0645"),
  (0xfce0, "\u0626\u0647"), (0xfce1, "\u0628\u0645"), (0xfce2, "\u0628\u0647"),
  (0xfce3, "\u062a\u0645"), (0xfce4, "\u062a\u0647"), (0xfce5, "\u062b\u0645"),
  (0xfce6, "\u062b\u0647"), (0xfce7, "\u0633\u0645"), (0xfce8, "\u0633\u0647"),
  (0xfce9, "\u0634\u0645"), (0xfcea, "\u0634\u0647"), (0xfceb, "\u0643\u0644"),
  (0xfcec, "\u0643\u0645"), (0xfced, "\u0644\u0645"), (0xfcee, "\u0646\u0645"),
  (0xfcef, "\u0646\u0647"), (0xfcf0, "\u064a\u0645"), (0xfcf1, "\u064a\u0647"),
  (0xfcf2, "\u0640\u064e\u0651"), (0xfcf3, "\u0640\u064f\u0651"), (0xfcf4, "\u0640\u0650\u0651"),
  (0xfcf5, "\u0637\u0649"), (0xfcf6, "\u0637\u064a"), (0xfcf7, "\u0639\u0649"),
  (0xfcf8, "\u0639\u064a"), (0xfcf9, "\u063a\u0649"), (0xfcfa, "\u063a\u064a"),
  (0xfcfb, "\u0633\u0649"), (0xfcfc, "\u0633\u064a"), (0xfcfd, "\u0634\u0649"),
  (0xfcfe, "\u0634\u064a"), (0xfcff, "\u062d\u0649"), (0xfd00, "\u062d\u064a"),
  (0xfd01, "\u062c\u0649"), (0xfd02, "\u062c\u064a"), (0xfd03, "\u062e\u0649"),
  (0xfd04, "\u062e\u064a"), (0xfd05, "\u0635\u0649"), (0xfd06, "\u0635\u064a"),
  (0xfd07, "\u0636\u0649"), (0xfd08, "\u0636\u064a"), (0xfd09, "\u0634\u062c"),
  (0xfd0a, "\u0634\u062d"), (0xfd0b, "\u0634\u062e"), (0xfd0c, "\u0634\u0645"),
  (0xfd0d, "\u0634\u0631"), (0xfd0e, "\u0633\u0631"), (0xfd0f, "\u0635\u0631"),
  (0xfd10, "\u0636\u0631"), (0xfd11, "\u0637\u0649"), (0xfd12, "\u0637\u064a"),
  (0xfd13, "\u0639\u0649"), (0xfd14, "\u0639\u064a"), (0xfd15, "\u063a\u0649"),
  (0xfd16, "\u063a\u064a"), (0xfd17, "\u0633\u0649"), (0xfd18, "\u0633\u064a"),
  (0xfd19, "\u0634\u0649"), (0xfd1a, "\u0634\u064a"), (0xfd1b, "\u062d\u0649"),
  (0xfd1c, "\u062d\u064a"), (0xfd1d, "\u062c\u0649"), (0xfd1e, "\u062c\u064a"),
  (0xfd1f, "\u062e\u0649"), (0xfd20, "\u062e\u064a"), (0xfd21, "\u0635\u0649"),
  (0xfd22, "\u0635\u064a"), (0xfd23, "\u0636\u0649"), (0xfd24, "\u0636\u064a"),
  (0xfd25, "\u0634\u062c"), (0xfd26, "\u0634\u062d"), (0xfd27, "\u0634\u062e"),
  (0xfd28, "\u0634\u0645"), (0xfd29, "\u0634\u0631"), (0xfd2a, "\u0633\u0631"),
  (0xfd2b, "\u0635\u0631"), (0xfd2c, "\u0636\u0631"), (0xfd2d, "\u0634\u062c"),
  (0xfd2e, "\u0634\u062d"), (0xfd2f, "\u0634\u062e"), (0xfd30, "\u0634\u0645"),
  (0xfd31, "\u0633\u0647"), (0xfd32, "\u0634\u0647"), (0xfd33, "\u0637\u0645"),
  (0xfd34, "\u0633\u062c"), (0xfd35, "\u0633\u062d"), (0xfd36, "\u0633\u062e"),
  (0xfd37, "\u0634\u062c"), (0xfd38, "\u0634\u062d"), (0xfd39, "\u0634\u062e"),
  (0xfd3a, "\u0637\u0645"), (0xfd3b, "\u0638\u0645"), (0xfd3c, "\u0627\u064b"),
  (0xfd3d, "\u0627\u064b"), (0xfd50, "\u062a\u062c\u0645"), (0xfd51, "\u062a\u062d\u062c"),
  (0xfd52, "\u062a\u062d\u062c"), (0xfd53, "\u062a\u062d\u0645"), (0xfd54, "\u062a\u062e\u0645"),
  (0xfd55, "\u062a\u0645\u062c"), (0xfd56, "\u062a\u0645\u062d"), (0xfd57, "\u062a\u0645\u062e"),
  (0xfd58, "\u062c\u0645\u062d"), (0xfd59, "\u062c\u0645\u062d"), (0xfd5a, "\u062d\u0645\u064a"),
  (0xfd5b, "\u062d\u0645\u0649"), (0xfd5c, "\u0633\u062d\u062c"), (0xfd5d, "\u0633\u062c\u062d"),
  (0xfd5e, "\u0633\u062c\u0649"), (0xfd5f, "\u0633\u0645\u062d"), (0xfd60, "\u0633\u0645\u062d"),
  (0xfd61, "\u0633\u0645\u062c"), (0xfd62, "\u0633\u0645\u0645"), (0xfd63, "\u0633\u0645\u0645"),
  (0xfd64, "\u0635\u062d\u062d"), (0xfd65, "\u0635\u062d\u062d"), (0xfd66, "\u0635\u0645\u0645"),
  (0xfd67, "\u0634\u062d\u0645"), (0xfd68, "\u0634\u062d\u0645"), (0xfd69, "\u0634\u062c\u064a"),
  (0xfd6a, "\u0634\u0645\u062e"), (0xfd6b, "\u0634\u0645\u062e"), (0xfd6c, "\u0634\u0645\u0645"),
  (0xfd6d, "\u0634\u0645\u0645"), (0xfd6e, "\u0636\u062d\u0649"), (0xfd6f, "\u0636\u062e\u0645"),
  (0xfd70, "\u0636\u062e\u0645"), (0xfd71, "\u0637\u0645\u062d"), (0xfd72, "\u0637\u0645\u062d"),
  (0xfd73, "\u0637\u0645\u0645"), (0xfd74, "\u0637\u0645\u064a"), (0xfd75, "\u0639\u062c\u0645"),
  (0xfd76, "\u0639\u0645\u0645"), (0xfd77, "\u0639\u0645\u0645"), (0xfd78, "\u0639\u0645\u0649"),
  (0xfd79, "\u063a\u0645\u0645"), (0xfd7a, "\u063a\u0645\u064a"), (0xfd7b, "\u063a\u0645\u0649"),
  (0xfd7c, "\u0641\u062e\u0645"), (0xfd7d, "\u0641\u062e\u0645"), (0xfd7e, "\u0642\u0645\u062d"),
  (0xfd7f, "\u0642\u0645\u0645"), (0xfd80, "\u0644\u062d\u0645"), (0xfd81, "\u0644\u062d\u064a"),
  (0xfd82, "\u0644\u062d\u0649"), (0xfd83, "\u0644\u062c\u062c"), (0xfd84, "\u0644\u062c\u062c"),
  (0xfd85, "\u0644\u062e\u0645"), (0xfd86, "\u0644\u062e\u0645"), (0xfd87, "\u0644\u0645\u062d"),
  (0xfd88, "\u0644\u0645\u062d"), (0xfd89, "\u0645\u062d\u062c"), (0xfd8a, "\u0645\u062d\u0645"),
  (0xfd8b, "\u0645\u062d\u064a"), (0xfd8c, "\u0645\u062c\u062d"), (0xfd8d, "\u0645\u062c\u0645"),
  (0xfd8e, "\u0645\u062e\u062c"), (0xfd8f, "\u0645\u062e\u0645"), (0xfd92, "\u0645\u062c\u062e"),
  (0xfd93, "\u0647\u0645\u062c"), (0xfd94, "\u0647\u0645\u0645"), (0xfd95, "\u0646\u062d\u0645"),
  (0xfd96, "\u0646\u062d\u0649"), (0xfd97, "\u0646\u062c\u0645"), (0xfd98, "\u0646\u062c\u0645"),
  (0xfd99, "\u0646\u062c\u0649"), (0xfd9a, "\u0646\u0645\u064a"), (0xfd9b, "\u0646\u0645\u0649"),
  (0xfd9c, "\u064a\u0645\u0645"), (0xfd9d, "\u064a\u0645\u0645"), (0xfd9e, "\u0628\u062e\u064a"),
  (0xfd9f, "\u062a\u062c\u064a"), (0xfda0, "\u062a\u062c\u0649"), (0xfda1, "\u062a\u062e\u064a"),
  (0xfda2, "\u062a\u062e\u0649"), (0xfda3, "\u062a\u0645\u064a"), (0xfda4, "\u062a\u0645\u0649"),
  (0xfda5, "\u062c\u0645\u064a"), (0xfda6, "\u062c\u062d\u0649"), (0xfda7, "\u062c\u0645\u0649"),
  (0xfda8, "\u0633\u062e\u0649"), (0xfda9, "\u0635\u062d\u064a"), (0xfdaa, "\u0634\u062d\u064a"),
  (0xfdab, "\u0636\u062d\u064a"), (0xfdac, "\u0644\u062c\u064a"), (0xfdad, "\u0644\u0645\u064a"),
  (0xfdae, "\u064a\u062d\u064a"), (0xfdaf, "\u064a\u062c\u064a"), (0xfdb0, "\u064a\u0645\u064a"),
  (0xfdb1, "\u0645\u0645\u064a"), (0xfdb2, "\u0642\u0645\u064a"), (0xfdb3, "\u0646\u062d\u064a"),
  (0xfdb4, "\u0642\u0645\u062d"), (0xfdb5, "\u0644\u062d\u0645"), (0xfdb6, "\u0639\u0645\u064a"),
  (0xfdb7, "\u0643\u0645\u064a"), (0xfdb8, "\u0646\u062c\u062d"), (0xfdb9, "\u0645\u062e\u064a"),
  (0xfdba, "\u0644\u062c\u0645"), (0xfdbb, "\u0643\u0645\u0645"), (0xfdbc, "\u0644\u062c\u0645"),
  (0xfdbd, "\u0646\u062c\u062d"), (0xfdbe, "\u062c\u062d\u064a"), (0xfdbf, "\u062d\u062c\u064a"),
  (0xfdc0, "\u0645\u062c\u064a"), (0xfdc1, "\u0641\u0645\u064a"), (0xfdc2, "\u0628\u062d\u064a"),
  (0xfdc3, "\u0643\u0645\u0645"), (0xfdc4, "\u0639\u062c\u0645"), (0xfdc5, "\u0635\u0645\u0645"),
  (0xfdc6, "\u0633\u062e\u064a"), (0xfdc7, "\u0646\u062c\u064a"), (0xfdf0, "\u0635\u0644\u06d2"),
  (0xfdf1, "\u0642\u0644\u06d2"), (0xfdf2, "\u0627\u0644\u0644\u0647"),
  (0xfdf3, "\u0627\u0643\u0628\u0631"), (0xfdf4, "\u0645\u062d\u0645\u062f"),
  (0xfdf5, "\u0635\u0644\u0639\u0645"), (0xfdf6, "\u0631\u0633\u0648\u0644"),
  (0xfdf7, "\u0639\u0644\u064a\u0647"), (0xfdf8, "\u0648\u0633\u0644\u0645"),
  (0xfdf9, "\u0635\u0644\u0649"),
  (0xfdfa, "\u0635\u0644\u0649 \u0627\u0644\u0644\u0647 \u0639" ++
    "\u0644\u064a\u0647 \u0648\u0633\u0644\u0645"),
  (0xfdfb, "\u062c\u0644 \u062c\u0644\u0627\u0644\u0647"), (0xfdfc, "\u0631\u06cc\u0627\u0644"),
  (0xfe70, " \u064b"), (0xfe71, "\u0640\u064b"), (0xfe72, " \u064c"), (0xfe74, " \u064d"),
  (0xfe76, " \u064e"), (0xfe77, "\u0640\u064e"), (0xfe78, " \u064f"), (0xfe79, "\u0640\u064f"),
  (0xfe7a, " \u0650"), (0xfe7b, "\u0640\u0650"), (0xfe7c, " \u0651"), (0xfe7d, "\u0640\u0651"),
  (0xfe7e, " \u0652"), (0xfe7f, "\u0640\u0652"), (0xfe8a, "\u0626"), (0xfe8b, "\u0626"),
  (0xfe90, "\u0628"), (0xfe91, "\u0628"), (0xfe96, "\u062a"), (0xfe97, "\u062a"),
  (0xfe9a, "\u062b"), (0xfe9b, "\u062b"), (0xfe9e, "\u062c"), (0xfe9f, "\u062c"),
  (0xfea2, "\u062d"), (0xfea3, "\u062d"), (0xfea6, "\u062e"), (0xfea7, "\u062e"),
  (0xfeb2, "\u0633"), (0xfeb3, "\u0633"), (0xfeb6, "\u0634"), (0xfeb7, "\u0634"),
  (0xfeba, "\u0635"), (0xfebb, "\u0635"), (0xfebe, "\u0636"), (0xfebf, "\u0636"),
  (0xfec2, "\u0637"), (0xfec3, "\u0637"), (0xfec6, "\u0638"), (0xfec7, "\u0638"),
  (0xfeca, "\u0639"), (0xfecb, "\u0639"), (0xfece, "\u063a"), (0xfecf, "\u063a"),
  (0xfed0, "\u063a"), (0xfed1, "\u0641"), (0xfed2, "\u0641"), (0xfed3, "\u0641"),
  (0xfed6, "\u0642"), (0xfed7, "\u0642"), (0xfeda, "\u0643"), (0xfedb, "\u0643"),
  (0xfede, "\u0644"), (0xfedf, "\u0644"), (0xfee2, "\u0645"), (0xfee3, "\u0645"),
  (0xfee6, "\u0646"), (0xfee7, "\u0646"), (0xfeea, "\u0647"), (0xfeeb, "\u0647"),
  (0xfef2, "\u064a"), (0xfef3, "\u064a"), (0xfef4, "\u064a"), (0xfef5, "\u0644\u0622"),
  (0xfef6, "\u0644\u0622"), (0xfef7, "\u0644\u0623"), (0xfef8, "\u0644\u0623"),
  (0xfef9, "\u0644\u0625"), (0xfefa, "\u0644\u0625"), (0xfefb, "\u0644\u0627"),
  (0xfefc, "\u0644\u0627"), (0x1ee02, "\u062c"), (0x1ee03, "\u062f"), (0x1ee05, "\u0648"),
  (0x1ee06, "\u0632"), (0x1ee07, "\u062d"), (0x1ee08, "\u0637"), (0x1ee09, "\u064a"),
  (0x1ee0e, "\u0633"), (0x1ee0f, "\u0639"), (0x1ee10, "\u0641"), (0x1ee11, "\u0635"),
  (0x1ee12, "\u0642"), (0x1ee13, "\u0631"), (0x1ee14, "\u0634"), (0x1ee17, "\u062e"),
  (0x1ee18, "\u0630"), (0x1ee19, "\u0636"), (0x1ee1a, "\u0638"), (0x1ee1b, "\u063a"),
  (0x1ee1c, "\u066e"), (0x1ee1d, "\u06ba"), (0x1ee1e, "\u06a1"), (0x1ee1f, "\u066f"),
  (0x1ee21, "\u0628"), (0x1ee22, "\u062c"), (0x1ee24, "\u0647"), (0x1ee27, "\u062d"),
  (0x1ee29, "\u064a"), (0x1ee2e, "\u0633"), (0x1ee2f, "\u0639"), (0x1ee30, "\u0641"),
  (0x1ee31, "\u0635"), (0x1ee32, "\u0642"), (0x1ee34, "\u0634"), (0x1ee37, "\u062e"),
  (0x1ee39, "\u0636"), (0x1ee3b, "\u063a"), (0x1ee42, "\u062c"), (0x1ee47, "\u062d"),
  (0x1ee49, "\u064a"), (0x1ee4b, "\u0644"), (0x1ee4d, "\u0646"), (0x1ee4e, "\u0633"),
  (0x1ee4f, "\u0639"), (0x1ee51, "\u0635"), (0x1ee52, "\u0642"), (0x1ee54, "\u0634"),
  (0x1ee57, "\u062e"), (0x1ee59, "\u0636"), (0x1ee5b, "\u063a"), (0x1ee5d, "\u06ba"),
  (0x1ee5f, "\u066f"), (0x1ee61, "\u0628"), (0x1ee62, "\u062c"), (0x1ee64, "\u0647"),
  (0x1ee67, "\u062d"), (0x1ee68, "\u0637"), (0x1ee69, "\u064a"), (0x1ee6a, "\u0643"),
  (0x1ee6e, "\u0633"), (0x1ee6f, "\u0639"), (0x1ee70, "\u0641"), (0x1ee71, "\u0635"),
  (0x1ee72, "\u0642"), (0x1ee74, "\u0634"), (0x1ee77, "\u062e"), (0x1ee79, "\u0636"),
  (0x1ee7a, "\u0638"), (0x1ee7b, "\u063a"), (0x1ee7c, "\u066e"), (0x1ee7e, "\u06a1"),
  (0x1ee82, "\u062c"), (0x1ee83, "\u062f"), (0x1ee86, "\u0632"), (0x1ee87, "\u062d"),
  (0x1ee88, "\u0637"), (0x1ee89, "\u064a"), (0x1ee8e, "\u0633"), (0x1ee8f, "\u0639"),
  (0x1ee90, "\u0641"), (0x1ee91, "\u0635"), (0x1ee92, "\u0642"), (0x1ee93, "\u0631"),
  (0x1ee94, "\u0634"), (0x1ee97, "\u062e"), (0x1ee98, "\u0630"), (0x1ee99, "\u0636"),
  (0x1ee9a, "\u0638"), (0x1ee9b, "\u063a"), (0x1eea1, "\u0628"), (0x1eea2, "\u062c"),
  (0x1eea3, "\u062f"), (0x1eea5, "\u0648"), (0x1eea6, "\u0632"), (0x1eea7, "\u062d"),
  (0x1eea8, "\u0637"), (0x1eea9, "\u064a"), (0x1eeae, "\u0633"), (0x1eeaf, "\u0639"),
  (0x1eeb0, "\u0641"), (0x1eeb1, "\u0635"), (0x1eeb2, "\u0642"), (0x1eeb3, "\u0631"),
  (0x1eeb4, "\u0634"), (0x1eeb7, "\u062e"), (0x1eeb8, "\u0630"), (0x1eeb9, "\u0636"),
  (0x1eeba, "\u0638"), (0x1eebb, "\u063a")]

/-- What replaces ligatures, vertical and half width forms, and signs in frames. -/
def formImages : Array (Nat × String) := #[
  (0xa69c, "\u044a"), (0xa69d, "\u044c"), (0xa770, "\ua76f"), (0xa7f1, "s"), (0xa7f2, "c"),
  (0xa7f3, "f"), (0xa7f4, "q"), (0xa7f8, "\u0127"), (0xa7f9, "\u0153"), (0xab5c, "\ua727"),
  (0xab5d, "\uab37"), (0xab5e, "\u026b"), (0xab5f, "\uab52"), (0xab69, "\u028d"), (0xfb00, "ff"),
  (0xfb01, "fi"), (0xfb02, "fl"), (0xfb03, "ffi"), (0xfb04, "ffl"), (0xfb05, "st"),
  (0xfb06, "st"), (0xfb13, "\u0574\u0576"), (0xfb14, "\u0574\u0565"), (0xfb15, "\u0574\u056b"),
  (0xfb16, "\u057e\u0576"), (0xfb17, "\u0574\u056d"), (0xfb20, "\u05e2"), (0xfb21, "\u05d0"),
  (0xfb27, "\u05e8"), (0xfb28, "\u05ea"), (0xfb29, "+"), (0xfb4f, "\u05d0\u05dc"), (0xfe10, ","),
  (0xfe11, "\u3001"), (0xfe15, "!"), (0xfe16, "?"), (0xfe31, "\u2014"), (0xfe32, "\u2013"),
  (0xfe33, "_"), (0xfe34, "_"), (0xfe37, "\x7b"), (0xfe38, "\x7d"), (0xfe47, "["), (0xfe48, "]"),
  (0xfe49, " \u0305"), (0xfe4a, " \u0305"), (0xfe4b, " \u0305"), (0xfe4c, " \u0305"),
  (0xfe4d, "_"), (0xfe4e, "_"), (0xfe4f, "_"), (0xfe50, ","), (0xfe51, "\u3001"), (0xfe54, ";"),
  (0xfe55, ":"), (0xfe56, "?"), (0xfe57, "!"), (0xfe58, "\u2014"), (0xfe5b, "\x7b"),
  (0xfe5c, "\x7d"), (0xfe5f, "#"), (0xfe60, "&"), (0xfe63, "-"), (0xfe64, "<"), (0xfe65, ">"),
  (0xfe66, "="), (0xfe68, "\x5c"), (0xfe6b, "@"), (0xff61, "."), (0xff64, "\u3001"),
  (0xff65, "\u30fb"), (0xff66, "\u30f2"), (0xff67, "\u30a1"), (0xff68, "\u30a3"),
  (0xff69, "\u30a5"), (0xff6a, "\u30a7"), (0xff6b, "\u30a9"), (0xff6c, "\u30e3"),
  (0xff6d, "\u30e5"), (0xff6e, "\u30e7"), (0xff6f, "\u30c3"), (0xff70, "\u30fc"),
  (0xff71, "\u30a2"), (0xff72, "\u30a4"), (0xff73, "\u30a6"), (0xff74, "\u30a8"),
  (0xff77, "\u30ad"), (0xff78, "\u30af"), (0xff79, "\u30b1"), (0xff7a, "\u30b3"),
  (0xff7b, "\u30b5"), (0xff7c, "\u30b7"), (0xff7d, "\u30b9"), (0xff7e, "\u30bb"),
  (0xff7f, "\u30bd"), (0xff80, "\u30bf"), (0xff81, "\u30c1"), (0xff82, "\u30c4"),
  (0xff83, "\u30c6"), (0xff84, "\u30c8"), (0xff8b, "\u30d2"), (0xff8c, "\u30d5"),
  (0xff8d, "\u30d8"), (0xff8e, "\u30db"), (0xff94, "\u30e4"), (0xff95, "\u30e6"),
  (0xff9c, "\u30ef"), (0xff9d, "\u30f3"), (0xffa3, "\u11aa"), (0xffa4, "\u1102"),
  (0xffb0, "\u111a"), (0xffb4, "\u1121"), (0xffe2, "\u00ac"), (0xffe3, " \u0304"),
  (0xffe4, "\u00a6"), (0xffe5, "\u00a5"), (0xffe6, "\u20a9"), (0xffe8, "\u2502"),
  (0xffed, "\u25a0"), (0xffee, "\u25cb"), (0x10783, "\u00e6"), (0x10784, "\u0299"),
  (0x10785, "\u0253"), (0x10787, "\u02a3"), (0x10788, "\uab66"), (0x10789, "\u02a5"),
  (0x1078a, "\u02a4"), (0x1078d, "\u1d91"), (0x1078e, "\u0258"), (0x1078f, "\u025e"),
  (0x10790, "\u02a9"), (0x10791, "\u0264"), (0x10792, "\u0262"), (0x10793, "\u0260"),
  (0x10794, "\u029b"), (0x10795, "\u0127"), (0x10796, "\u029c"), (0x10797, "\u0267"),
  (0x10798, "\u0284"), (0x1079b, "\u026c"), (0x1079d, "\ua78e"), (0x1079e, "\u026e"),
  (0x107a0, "\u028e"), (0x107a2, "\u00f8"), (0x107a5, "q"), (0x107a6, "\u027a"),
  (0x107aa, "\u0280"), (0x107ab, "\u02a8"), (0x107ac, "\u02a6"), (0x107ad, "\uab67"),
  (0x107ae, "\u02a7"), (0x107af, "\u0288"), (0x107b0, "\u2c71"), (0x107b2, "\u028f"),
  (0x107b5, "\u0298"), (0x1d49c, "a"), (0x1d4a2, "g"), (0x1d4bb, "f"), (0x1d546, "o"),
  (0x1d6a4, "\u0131"), (0x1d6a5, "\u0237"), (0x1d6b9, "\u03b8"), (0x1d6c1, "\u2207"),
  (0x1d6d3, "\u03c3"), (0x1d6db, "\u2202"), (0x1d6dc, "\u03b5"), (0x1d6dd, "\u03b8"),
  (0x1d6de, "\u03ba"), (0x1d6df, "\u03c6"), (0x1d6e0, "\u03c1"), (0x1d6e1, "\u03c0"),
  (0x1d6f3, "\u03b8"), (0x1d6fb, "\u2207"), (0x1d70d, "\u03c3"), (0x1d715, "\u2202"),
  (0x1d716, "\u03b5"), (0x1d717, "\u03b8"), (0x1d718, "\u03ba"), (0x1d719, "\u03c6"),
  (0x1d71a, "\u03c1"), (0x1d71b, "\u03c0"), (0x1d72d, "\u03b8"), (0x1d735, "\u2207"),
  (0x1d747, "\u03c3"), (0x1d74f, "\u2202"), (0x1d750, "\u03b5"), (0x1d751, "\u03b8"),
  (0x1d752, "\u03ba"), (0x1d753, "\u03c6"), (0x1d754, "\u03c1"), (0x1d755, "\u03c0"),
  (0x1d767, "\u03b8"), (0x1d76f, "\u2207"), (0x1d781, "\u03c3"), (0x1d789, "\u2202"),
  (0x1d78a, "\u03b5"), (0x1d78b, "\u03b8"), (0x1d78c, "\u03ba"), (0x1d78d, "\u03c6"),
  (0x1d78e, "\u03c1"), (0x1d78f, "\u03c0"), (0x1d7a1, "\u03b8"), (0x1d7a9, "\u2207"),
  (0x1d7bb, "\u03c3"), (0x1d7c3, "\u2202"), (0x1d7c4, "\u03b5"), (0x1d7c5, "\u03b8"),
  (0x1d7c6, "\u03ba"), (0x1d7c7, "\u03c6"), (0x1d7c8, "\u03c1"), (0x1d7c9, "\u03c0"),
  (0x1d7ca, "\u03dd"), (0x1d7cb, "\u03dd"), (0x1e047, "\u044b"), (0x1e04a, "\ua689"),
  (0x1e04b, "\u04d9"), (0x1e04c, "\u0456"), (0x1e04d, "\u0458"), (0x1e04e, "\u04e9"),
  (0x1e04f, "\u04af"), (0x1e050, "\u04cf"), (0x1e05e, "\u0441"), (0x1e067, "\u0491"),
  (0x1e068, "\u0456"), (0x1e069, "\u0455"), (0x1e06a, "\u045f"), (0x1e06b, "\u04ab"),
  (0x1e06c, "\ua651"), (0x1e06d, "\u04b1"), (0x1f101, "0,"), (0x1f102, "1,"), (0x1f103, "2,"),
  (0x1f104, "3,"), (0x1f105, "4,"), (0x1f106, "5,"), (0x1f107, "6,"), (0x1f108, "7,"),
  (0x1f109, "8,"), (0x1f10a, "9,"), (0x1f110, "(a)"), (0x1f111, "(b)"), (0x1f112, "(c)"),
  (0x1f113, "(d)"), (0x1f114, "(e)"), (0x1f115, "(f)"), (0x1f116, "(g)"), (0x1f117, "(h)"),
  (0x1f118, "(i)"), (0x1f119, "(j)"), (0x1f11a, "(k)"), (0x1f11b, "(l)"), (0x1f11c, "(m)"),
  (0x1f11d, "(n)"), (0x1f11e, "(o)"), (0x1f11f, "(p)"), (0x1f120, "(q)"), (0x1f121, "(r)"),
  (0x1f122, "(s)"), (0x1f123, "(t)"), (0x1f124, "(u)"), (0x1f125, "(v)"), (0x1f126, "(w)"),
  (0x1f127, "(x)"), (0x1f128, "(y)"), (0x1f129, "(z)"), (0x1f12a, "\u3014s\u3015"),
  (0x1f12b, "c"), (0x1f12c, "r"), (0x1f12d, "cd"), (0x1f12e, "wz"), (0x1f14a, "hv"),
  (0x1f14b, "mv"), (0x1f14c, "sd"), (0x1f14d, "ss"), (0x1f14e, "ppv"), (0x1f14f, "wc"),
  (0x1f16a, "mc"), (0x1f16b, "md"), (0x1f16c, "mr"), (0x1f190, "dj"), (0x1f200, "\u307b\u304b"),
  (0x1f201, "\u30b3\u30b3"), (0x1f202, "\u30b5"), (0x1f210, "\u624b"), (0x1f211, "\u5b57"),
  (0x1f212, "\u53cc"), (0x1f213, "\u30c7"), (0x1f214, "\u4e8c"), (0x1f215, "\u591a"),
  (0x1f216, "\u89e3"), (0x1f217, "\u5929"), (0x1f218, "\u4ea4"), (0x1f219, "\u6620"),
  (0x1f21a, "\u7121"), (0x1f21b, "\u6599"), (0x1f21c, "\u524d"), (0x1f21d, "\u5f8c"),
  (0x1f21e, "\u518d"), (0x1f21f, "\u65b0"), (0x1f220, "\u521d"), (0x1f221, "\u7d42"),
  (0x1f222, "\u751f"), (0x1f223, "\u8ca9"), (0x1f224, "\u58f0"), (0x1f225, "\u5439"),
  (0x1f226, "\u6f14"), (0x1f227, "\u6295"), (0x1f228, "\u6355"), (0x1f229, "\u4e00"),
  (0x1f22a, "\u4e09"), (0x1f22b, "\u904a"), (0x1f22c, "\u5de6"), (0x1f22d, "\u4e2d"),
  (0x1f22e, "\u53f3"), (0x1f22f, "\u6307"), (0x1f230, "\u8d70"), (0x1f231, "\u6253"),
  (0x1f232, "\u7981"), (0x1f233, "\u7a7a"), (0x1f234, "\u5408"), (0x1f235, "\u6e80"),
  (0x1f236, "\u6709"), (0x1f237, "\u6708"), (0x1f238, "\u7533"), (0x1f239, "\u5272"),
  (0x1f23a, "\u55b6"), (0x1f23b, "\u914d"), (0x1f240, "\u3014\u672c\u3015"),
  (0x1f241, "\u3014\u4e09\u3015"), (0x1f242, "\u3014\u4e8c\u3015"),
  (0x1f243, "\u3014\u5b89\u3015"), (0x1f244, "\u3014\u70b9\u3015"),
  (0x1f245, "\u3014\u6253\u3015"), (0x1f246, "\u3014\u76d7\u3015"),
  (0x1f247, "\u3014\u52dd\u3015"), (0x1f248, "\u3014\u6557\u3015"), (0x1f250, "\u5f97"),
  (0x1f251, "\u53ef")]

end BookSync.Url.Domain
