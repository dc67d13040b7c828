import EnumForge.Emit.FamilyCode
import EnumForge.Table.Library

namespace EnumForge.Sample

/-- A family given by labels and numbers. -/
def family (name : String) (members : List (String × UInt64)) : Family :=
  Family.ofMembers name (members.map fun m => ⟨m.1, m.2⟩)

def conjunction : Family := family "Conjunction"
  [("AND", 0), ("OR", 1)]

def field : Family := family "Field"
  [("name", 2), ("album", 3), ("artist", 4), ("bit_rate", 5), ("sample_rate", 6), ("year", 7),
    ("genre", 8), ("kind", 9), ("date_modified", 10), ("track_number", 11), ("size", 12),
    ("total_time", 13), ("comments", 14), ("date_added", 16), ("composer", 18),
    ("play_count", 22), ("play_date_utc", 23), ("disk_number", 24), ("rating", 25),
    ("disabled", 29), ("compilation", 31), ("bpm", 35), ("has_artwork", 37), ("grouping", 39),
    ("playlist_persistent_id", 40), ("purchased", 41), ("description", 54), ("category", 55),
    ("podcast", 57), ("media_kind", 60), ("series", 62), ("season", 63), ("skip_count", 68),
    ("skip_date", 69), ("album_artist", 71), ("sort_name", 78), ("sort_album", 79),
    ("sort_album_artist", 81), ("sort_composer", 82), ("sort_series", 83), ("video_rating", 89),
    ("album_rating", 90), ("location", 133), ("icloud_status", 134), ("love", 154)]

def iCloudStatus : Family := family "ICloudStatus"
  [("Purchased", 1), ("Matched", 2), ("Uploaded", 3), ("Ineligible", 4), ("LocalOnly", 5),
    ("Duplicate", 6)]

def limitMethod : Family := family "LimitMethod"
  [("minutes", 1), ("MB", 2), ("items", 3), ("hours", 4), ("GB", 5)]

def locationStatus : Family := family "LocationStatus"
  [("Computer", 1), ("iCloud", 16)]

def logicRule : Family := family "LogicRule"
  [("other", 0), ("is", 1), ("contains", 2), ("startswith", 4), ("endswith", 8),
    ("greaterthan", 16), ("lessthan", 64), ("between", 256), ("within", 512)]

def logicSign : Family := family "LogicSign"
  [("int_pos", 0), ("str_pos", 1), ("int_neg", 2), ("str_neg", 3)]

def loveStatus : Family := family "LoveStatus"
  [("None", 0), ("Loved", 2), ("Disliked", 3)]

def mediaKind : Family := family "MediaKind"
  [("Music", 1), ("Movie", 2), ("Podcast", 4), ("Audiobook", 8), ("MusicVideo", 32),
    ("TVShow", 64), ("HomeVideo", 1024), ("ITunesExtras", 65536), ("VoiceMemo", 1048576),
    ("OtherMusic", 1057201), ("ITunesU", 2097152), ("UndesiredMusic", 2129924),
    ("UndesiredOther", 2138116), ("Book", 12582912), ("BookOrAudiobook", 12582920)]

def selectionMethod : Family := family "SelectionMethod"
  [("lowest_rating", 1), ("<random>", 2), ("name", 5), ("album", 6), ("artist", 7), ("genre", 9),
    ("date_added", 21), ("play_count", 25), ("play_date_utc", 26), ("rating", 28)]

def color : Family := family "Color"
  [("Red", 0), ("Green", 1), ("Blue", 2)]

def status : Family := family "Status"
  [("In-Progress!", 1), ("Done", 2), ("Blocked", 3)]

def preference : Family := family "Preference"
  [("Neutral", 0), ("Loved", 2), ("Liked", 2)]

def families : List Family :=
  [conjunction, field, iCloudStatus, limitMethod, locationStatus, logicRule, logicSign, loveStatus,
    mediaKind, selectionMethod, color, status, preference]

def library : Library := Library.ofFamilies families

/-- The generated type of a family of the sample. -/
def code (f : Family) : FamilyCode := f.code .u32

end EnumForge.Sample
