import ScriptLauncher.Main
import ScriptLauncher.Proofs.Classification
import ScriptLauncher.Proofs.Conversion
import ScriptLauncher.Proofs.Decoding
import ScriptLauncher.Proofs.Derived
import ScriptLauncher.Proofs.DryRun
import ScriptLauncher.Proofs.Endings
import ScriptLauncher.Proofs.Entries
import ScriptLauncher.Proofs.ExitCode
import ScriptLauncher.Proofs.FirstFault
import ScriptLauncher.Proofs.Grouping
import ScriptLauncher.Proofs.Layers
import ScriptLauncher.Proofs.Logging
import ScriptLauncher.Proofs.Modes
import ScriptLauncher.Proofs.Nearest
import ScriptLauncher.Proofs.Overrides
import ScriptLauncher.Proofs.Parity
import ScriptLauncher.Proofs.Precedence
import ScriptLauncher.Proofs.Records
import ScriptLauncher.Proofs.Residue
import ScriptLauncher.Proofs.Transparency
import ScriptLauncher.Proofs.Wording
