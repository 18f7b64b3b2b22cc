/-!
# Splitting text

A separator stands between two pieces, so a text with no separator is one piece, itself.
-/
namespace HomeHub.Text

def split (separator : Char) (text : String) : List String :=
  (text.toList.splitOn separator).map String.ofList

end HomeHub.Text
