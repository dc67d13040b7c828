import EnumForge.Emit.Token

namespace EnumForge.Emit

/-- Comment at the top of a generated file, and the empty line after it. -/
def header : String :=
  "// @generated by enumgen. Do not edit by hand: change the enum table and regenerate.\n\n"

def imports : List Token :=
  words "use :: std :: fmt ; use :: serde ::" ++
    braces (words "de , Deserialize , Deserializer , Serialize , Serializer") ++ words ";"

/-- The type of errors in the text form of a value. -/
def errorType : List Token :=
  docs " Error returned when an enum value cannot be parsed from its text form." ++
    words "# [ derive ( Debug ) ] pub enum EnumTextError" ++
    braces (
      docs " The input was not a JSON string." ++
      words "MalformedInput ( :: serde_json :: Error ) ," ++
      docs " The string is not a declared label of the family." ++
      words "UnknownLabel" ++
      braces (words "family : & 'static str , label : :: std :: string :: String ,") ++ words ",")

/-- Arms of a look at an error: the label's field gives a value, and malformed input gives none. -/
def errorFieldArms (field found : String) : List Token :=
  words "EnumTextError :: UnknownLabel" ++ braces (words (field ++ " , ..")) ++
    words "=> :: core :: option :: Option :: Some (" ++ words found ++
    words ") , EnumTextError :: MalformedInput ( _ ) => :: core :: option :: Option :: None ,"

/-- What an error tells about the label it met. -/
def errorMethods : List Token :=
  words "impl EnumTextError" ++
    braces (
      docs " Family named by an unknown-label error." ++
      words "pub fn family ( & self ) -> :: core :: option :: Option < & 'static str >" ++
      braces (words "match self" ++ braces (errorFieldArms "family" "* family")) ++
      docs " Label carried by an unknown-label error." ++
      words "pub fn label ( & self ) -> :: core :: option :: Option < & str >" ++
      braces (words "match self" ++ braces (errorFieldArms "label" "label . as_str ( )")))

def errorDisplay : List Token :=
  words "impl fmt :: Display for EnumTextError" ++
    braces (
      words "fn fmt ( & self , f : & mut fmt :: Formatter < '_ > ) -> fmt :: Result" ++
      braces (words "match self" ++
        braces (
          words "EnumTextError :: MalformedInput ( err ) => write ! ( f ," ++
          [.text "malformed enum text: \x7b\x7d"] ++ words ", err ) ," ++
          words "EnumTextError :: UnknownLabel" ++ braces (words "family , label") ++
          words "=> write ! ( f ," ++ [.text "unknown \x7b\x7d \x7b\x7d"] ++
          words ", family , label ) ,")))

def errorSource : List Token :=
  words "impl :: std :: error :: Error for EnumTextError" ++
    braces (
      words "fn source ( & self ) -> :: core :: option :: Option <" ++
      words "& ( dyn :: std :: error :: Error + 'static ) >" ++
      braces (words "match self" ++
        braces (
          words "EnumTextError :: MalformedInput ( err ) =>" ++
          words ":: core :: option :: Option :: Some ( err ) ," ++
          words "EnumTextError :: UnknownLabel" ++ braces (words "..") ++
          words "=> :: core :: option :: Option :: None ,")))

def preamble : List Token :=
  imports ++ errorType ++ errorMethods ++ errorDisplay ++ errorSource

end EnumForge.Emit
