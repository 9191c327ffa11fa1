import Stencil.FileTree
import Stencil.Main
import Stencil.Session
import Stencil.Proofs.Render.Evaluation
import Stencil.Proofs.Render.Recording
import Stencil.Proofs.Render.Inlining
import Stencil.Proofs.Render.Loop
import Stencil.Proofs.Render.Cycles
import Stencil.Proofs.Render.Scoping
import Stencil.Proofs.Render.Frames
import Stencil.Proofs.Render.Depth
import Stencil.Proofs.Render.Flattening
import Stencil.Proofs.Render.Branching
import Stencil.Proofs.Render.Entering
import Stencil.Proofs.Template.Descent
import Stencil.Proofs.Template.Printing
import Stencil.Proofs.Template.Joining
import Stencil.Proofs.Template.Places
import Stencil.Proofs.Template.Walking
import Stencil.Proofs.Template.Limits
import Stencil.Proofs.Template.Spacing
import Stencil.Proofs.Template.LastLine
import Stencil.Proofs.Normalizing
import Stencil.Proofs.Resolving
import Stencil.Proofs.Confinement
import Stencil.Proofs.Render.Raising
import Stencil.Proofs.Session
import Stencil.Proofs.Render.Naming
import Stencil.Proofs.Expr.Evaluating
import Stencil.Proofs.TemplateFiles
import Stencil.Proofs.Workspaces
import Stencil.Proofs.Command.Writing
import Stencil.Proofs.Command.Generating
import Stencil.Proofs.Template.Likeness
import Stencil.Proofs.ConfigFiles
import Stencil.Proofs.Loading
import Stencil.Proofs.Overriding
import Stencil.Proofs.Relocating
import Stencil.Proofs.Template.Separators
import Stencil.Proofs.Template.Headers
