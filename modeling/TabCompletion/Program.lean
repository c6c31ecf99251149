/-! # The name of the program -/

namespace TabCompletion

/-- The name under which the program is called, keeps its settings and writes its log. -/
def programName : String := "tclcomplete"

end TabCompletion
