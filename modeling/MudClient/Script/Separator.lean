import MudClient.Text
/-! Semicolons. In an action written on one line a semicolon separates commands and a doubled one is
a semicolon of the text. A semicolon of the text is kept as a backslash and a semicolon through
every further reading, and becomes a bare semicolon when the text leaves the script. -/
namespace MudClient.Script.Separator

/-- One semicolon ends a command; two are a semicolon of the text. -/
def expand : Text → Text
  | '\\' :: ';' :: r => '\\' :: ';' :: expand r
  | ';' :: ';' :: r => '\\' :: ';' :: expand r
  | ';' :: r => '\n' :: expand r
  | c :: r => c :: expand r
  | [] => []

def collapse : Text → Text
  | '\\' :: ';' :: r => ';' :: ';' :: collapse r
  | ';' :: r => ';' :: ';' :: collapse r
  | '\n' :: r => ';' :: collapse r
  | '\r' :: r => collapse r
  | c :: r => c :: collapse r
  | [] => []

/-- Text that leaves the script has bare semicolons. -/
def unescape : Text → Text
  | '\\' :: ';' :: r => ';' :: unescape r
  | c :: r => c :: unescape r
  | [] => []

end MudClient.Script.Separator
