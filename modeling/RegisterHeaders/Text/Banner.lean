import RegisterHeaders.Text.Wrap

/-!
# File banners

The comment at the top of a header file. It names the file and describes it; the description is
wrapped and its lines are aligned.
-/

namespace RegisterHeaders.Text

/-- The text made of the given lines, each ended by a line break. -/
def unlines (lines : List String) : String :=
  String.join (lines.map (· ++ "\n"))

/-- The row of asterisks that opens and closes a banner. -/
def rule : String :=
  String.ofList (List.replicate 79 '*')

/-- The lines of a description, the first with its label and the others aligned with it. -/
def detailLines : List String → List String
  | [] => []
  | first :: rest =>
    ("* Details       : " ++ first) :: rest.map ("*                 " ++ ·)

/-- The lines of the banner of a file whose description is wrapped at `width` bytes. -/
def bannerLines (fileName description : String) (width : Nat) : List String :=
  ["/" ++ rule, "* Filename      : " ++ fileName, "*"] ++
    detailLines (wrap width description) ++ ["*", "*", rule ++ "/"]

/-- The banner of a file. -/
def banner (fileName description : String) (width : Nat) : String :=
  unlines (bannerLines fileName description width)

end RegisterHeaders.Text
