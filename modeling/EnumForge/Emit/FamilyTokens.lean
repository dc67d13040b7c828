import EnumForge.Emit.Token
import EnumForge.Emit.FamilyCode

namespace EnumForge.FamilyCode

open EnumForge.Emit

variable (code : FamilyCode)

def ty : Token := .family code.name

def int : Token := .integer code.width

/-- A value of the family's type, written as a call of its constructor. -/
def literal (value : UInt64) : List Token := code.ty :: words "(" ++ .number value :: words ")"

def separated : List (List Token) → List Token
  | [] => []
  | [e] => e
  | e :: es => e ++ words "," ++ separated es

theorem separated_cons (e : List Token) (es : List (List Token)) :
    separated (e :: es) = e ++ es.flatMap fun d => words "," ++ d := by
  induction es generalizing e with
  | nil => simp [separated]
  | cons d es ih => simp [separated, ih]

def typeTokens : List Token :=
  words "# [ allow ( non_camel_case_types ) ]" ++
    words "# [ derive ( Debug , Clone , Copy , PartialEq , Eq , Hash , PartialOrd , Ord ," ++
    words "Default ) ]" ++
    words "# [ repr ( transparent ) ] pub struct" ++ code.ty :: words "( pub" ++
    code.int :: words ") ;"

/-- The table of labels by value. -/
def namesTokens : List Token :=
  docs " Declared members as `(value, label)`, in ascending value order." ++
    words "pub const NAMES : & 'static [ (" ++ code.ty :: words ", & 'static str ) ] = & [" ++
    separated (code.names.map fun e =>
      words "(" ++ code.literal e.1 ++ words "," ++ .text e.2 :: words ")") ++
    words "] ;"

/-- The table of values by label. -/
def valuesTokens : List Token :=
  docs " Declared members as `(label, value)`, in ascending value order." ++
    words "pub const VALUES : & 'static [ ( & 'static str ," ++ code.ty :: words ") ] = & [" ++
    separated (code.values.map fun e =>
      words "(" ++ .text e.1 :: words "," ++ code.literal e.2 ++ words ")") ++
    words "] ;"

/-- Conversion from and to the integer as constant functions. -/
def accessorTokens : List Token :=
  words "pub const fn new ( value :" ++ code.int :: words ") -> Self" ++
    braces (words "Self ( value )") ++
    words "pub const fn value ( self ) ->" ++ code.int :: braces (words "self . 0")

/-- The look-up of a label by value. -/
def nameTokens : List Token :=
  docs " Declared label of this value, if any." ++
    words "pub fn name ( self ) -> :: core :: option :: Option < & 'static str >" ++
    braces (words "match self . 0" ++
      braces (
        code.nameArms.flatMap (fun e =>
          .number e.1 :: words "=> :: core :: option :: Option :: Some (" ++
            .text e.2 :: words ") ,") ++
        words "_ => :: core :: option :: Option :: None ,"))

/-- The look-up of a value by label. -/
def fromNameTokens : List Token :=
  docs " Value declared for `name`, if any." ++
    words "pub fn from_name ( name : & str ) -> :: core :: option :: Option < Self >" ++
    braces (words "match name" ++
      braces (
        code.fromNameArms.flatMap (fun e =>
          .text e.1 :: words "=> :: core :: option :: Option :: Some (" ++
            .constant e.2 :: words ") ,") ++
        words "_ => :: core :: option :: Option :: None ,"))

def toJsonTokens : List Token :=
  docs " Renders the value as a JSON string." ++
    words "pub fn to_json ( self ) -> :: std :: string :: String" ++
    braces (
      words "let label = :: serde_json :: Value :: String (" ++
      words ":: std :: string :: ToString :: to_string ( & self ) ) ;" ++
      words ":: std :: string :: ToString :: to_string ( & label )")

/-- The end of every reading of a label: a declared value is the result, and for any other label
the error that stands between `before` and `after`. -/
def orUnknownLabel (before fields after : List Token) : List Token :=
  braces (
    words ":: core :: option :: Option :: Some ( value ) =>" ++
    words ":: core :: result :: Result :: Ok ( value ) ," ++
    words ":: core :: option :: Option :: None => :: core :: result :: Result :: Err (" ++
    before ++ words "EnumTextError :: UnknownLabel" ++
    braces (words "family :" ++ .text code.name :: words "," ++ fields) ++
    after ++ words ", ) ,")

def fromJsonTokens : List Token :=
  docs " Parses a JSON string holding a declared label." ++
    words "pub fn from_json ( text : & str ) -> :: core :: result :: Result < Self ," ++
    words "EnumTextError >" ++
    braces (
      words "let label : :: std :: string :: String = :: serde_json :: from_str ( text )" ++
      words ". map_err ( EnumTextError :: MalformedInput ) ? ;" ++
      words "match Self :: from_name ( & label )" ++
      code.orUnknownLabel [] (words "label") [])

def inherentTokens : List Token :=
  words "impl" ++ code.ty ::
    braces (
      code.namesTokens ++ code.valuesTokens ++ code.accessorTokens ++ code.nameTokens ++
      code.fromNameTokens ++ toJsonTokens ++ code.fromJsonTokens)

def constantTokens : List Token :=
  code.constants.flatMap fun e =>
    words "# [ allow ( non_upper_case_globals ) ] pub const" ++ .constant e.1 :: words ":" ++
      code.ty :: words "=" ++ code.literal e.2 ++ words ";"

/-- What an undeclared value is shown as: the family's name and the value in hexadecimal. -/
def fallbackPattern : String := code.name ++ "_0x\x7b:X\x7d"

def displayTokens : List Token :=
  words "impl fmt :: Display for" ++ code.ty ::
    braces (
      words "fn fmt ( & self , f : & mut fmt :: Formatter < '_ > ) -> fmt :: Result" ++
      braces (words "match self . name ( )" ++
        braces (
          words ":: core :: option :: Option :: Some ( name ) => f . pad ( name ) ," ++
          words ":: core :: option :: Option :: None => write ! ( f ," ++
          .text code.fallbackPattern :: words ", self . 0 ) ,")))

def fromStrTokens : List Token :=
  words "impl :: core :: str :: FromStr for" ++ code.ty ::
    braces (
      words "type Err = EnumTextError ; fn from_str ( s : & str ) ->" ++
      words ":: core :: result :: Result < Self , Self :: Err >" ++
      braces (words "match Self :: from_name ( s )" ++
        code.orUnknownLabel [] (words "label : :: std :: string :: String :: from ( s ) ,") []))

def conversionTokens : List Token :=
  words "impl :: core :: convert :: From <" ++ code.int :: words "> for" ++ code.ty ::
    braces (
      words "fn from ( value :" ++ code.int :: words ") -> Self" ++
      braces (words "Self ( value )")) ++
    words "impl :: core :: convert :: From <" ++ code.ty :: words "> for" ++ code.int ::
    braces (
      words "fn from ( value :" ++ code.ty :: words ") -> Self" ++
      braces (words "value . 0"))

def serializeTokens : List Token :=
  words "impl Serialize for" ++ code.ty ::
    braces (
      words "fn serialize < S : Serializer > ( & self , serializer : S ) ->" ++
      words ":: core :: result :: Result < S :: Ok , S :: Error >" ++
      braces (words "serializer . collect_str ( self )"))

def deserializeTokens : List Token :=
  words "impl < 'de > Deserialize < 'de > for" ++ code.ty ::
    braces (
      words "fn deserialize < D : Deserializer < 'de >> ( deserializer : D ) ->" ++
      words ":: core :: result :: Result < Self , D :: Error >" ++
      braces (
        words "let label = < :: std :: string :: String as Deserialize < 'de >>" ++
        words ":: deserialize ( deserializer ) ? ; match Self :: from_name ( & label )" ++
        code.orUnknownLabel (words "< D :: Error as de :: Error > :: custom (")
          (words "label ,") (words ")")))

def tokens : List Token :=
  code.typeTokens ++ code.inherentTokens ++ code.constantTokens ++ code.displayTokens ++
    code.fromStrTokens ++ code.conversionTokens ++ code.serializeTokens ++ code.deserializeTokens

end EnumForge.FamilyCode
