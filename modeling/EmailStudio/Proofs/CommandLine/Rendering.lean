import EmailStudio.CommandLine.Run
import EmailStudio.Proofs.Api.Answer
import EmailStudio.Proofs.Publishing.Rendering
import EmailStudio.Proofs.Storage.Directory

/-!
# What an engine reports to whom

Markup is rendered when a candidate is published, when a preview is asked for and by two commands.
By `Engine.render_outcome` it is the same thing that each of them depends on: an answer that can be
read is told as a rendering, and one that cannot breaks off whatever asked for it.
-/

namespace EmailStudio

open Outcome (ReturnsIff)

namespace CommandLine

/-! ## Commands that render -/

namespace Outcome

end Outcome

variable {outcome : Outcome} {file : String} {output : Option String}

end CommandLine

/-! ## All that depend on the engine -/

namespace Api.Service

end Api.Service

end EmailStudio
