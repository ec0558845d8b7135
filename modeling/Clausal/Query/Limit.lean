/-!
# Nesting limits

How many clause maps may stand inside one another; `none` is no limit.
-/

namespace Clausal

/-- The greatest depth of nested clause maps that is allowed. -/
abbrev DepthLimit := Option Nat

namespace DepthLimit

def default : DepthLimit := some 128

def unbounded : DepthLimit := none

end DepthLimit

end Clausal
