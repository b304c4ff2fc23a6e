import HttpChain.Text.RunTable

/-!
# HttpChain.Text.Joining

How characters join in writing: `D` on both sides, `L` and `R` on one, `C` by
causing it, `T` not at all but transparent to it, and `U` not at all.
-/

namespace HttpChain.Text.Joining

/-- How all characters join. -/
def table : RunTable := .ofLines [
  "U173TU594T112U275T7U263T45UTUT2UT2UTU72T11UTU3DUR4DRDRD5R4D13CD7RD2T21U14D2TR3UR3D16R18D38RD2R",
  "9DRDRD2R2URT7U2T6U2T2UT4R2U10D3U2DU15TRTD3R5D4RD9RDRDRD2RT27U2RD11R3D15R2D4RDR2D3R2D6U38T11U25",
  "D33T9U6CU2TU24T4UT9UT3UT5U18RD5R2DRD10RDR3T3U4DUD4URDR2U5R19C3DU2D5RDU7T9D10R3URD2R2D6RD15UT24",
  "UT32U55TUTU4T8U4TU3T7U10T2U29TU58TU4T4U8TU20T2U26TU2T2U57TU4T2U4T2U2T3U3TU30T2U3TU11T2U57TU4T5",
  "UT2U4TU20T2U22T6UTU58TU2TUT4U8TU7T2U11T2U30TU61TU12TU50TU3TU55TUT3U5T3UT4U7T2U11T2U29TU58TU2TU",
  "6TU5T2U20T2U28T2U57T2U4T4U8TU20T2U29TU72TU7T3UTU90TU2T7U12T8U98TU2T9U11T7U73T2U27TUTUTU55T14UT",
  "5UT2U5T11UT36U9TU102T4UT6UT2U2T2U25T2U4T3U16T4U13TU2T2U6TU15TU703T3U946T3U29T2U30T2U30T2U64T2U",
  "T7U8TU2T11U9TU41DU2CT3UTU16D89U12T2D34TDU117T3U4T2U9TU6T3U219T2U2TU58TUT7UTUTU2T8U6T10U2TU48T4",
  "6U2T12U20T4U48TUT5UTU5TU40T9U12T2U32T4U2T2UT3U56TUT2U3TUT3U58T8U2T2U152T3UT13UT7U4TU6TU3T2U198",
  "T64U523TUCT2U26T5U49T5U5T6U96T33U3070T3U141TU96T32U554T4U107T2U30164T4UT10U32T2U80T2U272TU3TU4",
  "TU25T2U5TU19D50LU81T2U26T18U13TU38T8U25T11U46T3U48TU2T4U2T2U39TU67T6U2T2U2T2U12TU8TU47TU51TUT3",
  "U2T2U5T2UTU42T2U8TU238TU2TU4TU20272TU737T16U16T16U207TU249T3U513TU226TU149T5U1670T3UT2U5T4U40T",
  "3U4TU128D5RURUR2U2LR5D4LD5RD3RU2RT2U4D4RU144DRDR3D3RD2RDR2DRU23R4D2U337LD33RDT4U65T5U317T2U21R",
  "D2UD2U50T6U48D3RD17UT11D3RU27D4R2D12T4U42DUD2R3UDR2D2RD2UDR2DU4RDLU53TU54T15U41TU2T2U10T3U49T4",
  "U2T2U7TU61T3U36T5UT8U62TU12T2U52T9U10T4U2TU95T3U2TUT2U6TU2TU157TU3T8U21T2U57T2U3TU37T7U3T5U70T",
  "6U13TUTUTU14T2U85T8U2T3UTU23TU84T6UTU4T2UT2U238T4U6T2UT2U27T2U85T8U2TUT2U106TUTU2T6UTU101TUTU2",
  "T4UT5U259T9UT2U256T2UTU4TU144T4U2T2U4TU32T10U40T6U2T4U8TU9T6U2T3U46T13UT2U198TUT3UTU201T7UT6UT",
  "U82T22U2T7UT2UT2U122T6U3TUT2UT7UTU72T2U3TUTU347T2U11T2U52T5U5TUTU23TU5333T17U6T15U11464T12U3T3",
  "U2496T5U59T7U1048TU63T4U81TU19640T2UT4U4700T46U2T23U544T3U9T16U2T7U30T4U148T3U1979T55U4T50U8TU",
  "14TU22T5UT15U1360T7UT17U2T7UT2UT5U100TU160T7U375TU61T4U508T4U254T2U243TU2TU7T2U5TU474T7U41D68T",
  "8U792245TU30T96U128T240U196112"]

/-- The letter of a character. -/
def of (c : Char) : Char := (table.letter? c).getD 'U'

end HttpChain.Text.Joining
