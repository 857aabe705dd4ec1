import ExtensionCatalogue.Package

/-!
# The bundled catalogue

The packages that are published when no other catalogue is given.
-/

namespace ExtensionCatalogue.Catalog

/-- A rating that is given in tenths. -/
def tenths (n : Nat) : Binary64 := .ofRatio false n 10

def bundledPackages : List Package :=
  [
   { id := "salome.geometry"
     name := "Geometry Module"
     version := "9.11.0"
     author := "CEA/DEN"
     description := "Advanced CAD geometry creation and edition (BREP, STEP, IGES)."
     tags := ["geometry", "cad", "brep", "step"]
     iconUrl := none
     rating := tenths 48
     installs := 125000
     installed := false },
   { id := "salome.mesh"
     name := "Mesh Module"
     version := "9.11.0"
     author := "CEA/DEN"
     description := "Automatic and manual meshing with NETGEN, MG-Tetra and more."
     tags := ["mesh", "netgen", "fea", "hexa"]
     iconUrl := none
     rating := tenths 47
     installs := 118000
     installed := false },
   { id := "salome.paravis"
     name := "ParaVis — ParaView Integration"
     version := "9.11.0"
     author := "CEA/DEN"
     description := "Embeds ParaView post-processing directly in SALOME."
     tags := ["visualization", "post-processing", "paraview", "vtu"]
     iconUrl := none
     rating := tenths 49
     installs := 99000
     installed := false },
   { id := "salome.smesh_algo"
     name := "Advanced Meshing Algorithms"
     version := "2.4.1"
     author := "EDF R&D"
     description := "Extra meshing algorithms: quadrangles, prisms, hexahedra."
     tags := ["mesh", "algorithm", "hex", "prism"]
     iconUrl := none
     rating := tenths 45
     installs := 45000
     installed := false },
   { id := "salome.eficas"
     name := "Eficas — Command File Editor"
     version := "7.8.0"
     author := "EDF R&D"
     description := "Graphical editor for Code_Aster and Code_Saturne command files."
     tags := ["editor", "aster", "saturne", "fea"]
     iconUrl := none
     rating := tenths 43
     installs := 33000
     installed := false },
   { id := "salome.jobmanager"
     name := "Job Manager"
     version := "9.11.0"
     author := "CEA/DEN"
     description := "Submit and monitor HPC jobs directly from SALOME."
     tags := ["hpc", "slurm", "job", "cluster"]
     iconUrl := none
     rating := tenths 41
     installs := 28000
     installed := false },
   { id := "salome.yacs"
     name := "YACS — Workflow Engine"
     version := "9.11.0"
     author := "CEA/DEN"
     description := "Graphical workflow and coupling engine for multi-physics simulations."
     tags := ["workflow", "coupling", "python", "dataflow"]
     iconUrl := none
     rating := tenths 44
     installs := 52000
     installed := false },
   { id := "salome.hexablock"
     name := "HexaBlock — Structured Meshing"
     version := "9.6.0"
     author := "CEA/DEN"
     description := "Block-structured hexahedral mesh generation."
     tags := ["mesh", "hexa", "structured", "block"]
     iconUrl := none
     rating := tenths 42
     installs := 17000
     installed := false },
   { id := "community.gmsh_plugin"
     name := "GMSH Plugin"
     version := "1.3.0"
     author := "Community"
     description := "Integrate the GMSH mesher as an alternative mesh engine."
     tags := ["mesh", "gmsh", "community", "triangle"]
     iconUrl := none
     rating := tenths 46
     installs := 41000
     installed := false },
   { id := "community.opencascade_viewer"
     name := "OCC Enhanced Viewer"
     version := "0.9.5"
     author := "Community"
     description := "Extended OpenCASCADE 3-D viewer with advanced display options."
     tags := ["viewer", "opencascade", "3d", "display"]
     iconUrl := none
     rating := tenths 39
     installs := 9800
     installed := false },
   { id := "salome.shaper"
     name := "Shaper — Parametric CAD"
     version := "9.11.0"
     author := "CEA/DEN"
     description := "Parametric, feature-based CAD modeller integrated in SALOME."
     tags := ["geometry", "parametric", "cad", "feature"]
     iconUrl := none
     rating := tenths 47
     installs := 71000
     installed := false },
   { id := "salome.fields"
     name := "Fields Module"
     version := "9.11.0"
     author := "CEA/DEN"
     description := "Management and manipulation of simulation result fields."
     tags := ["post-processing", "fields", "medfile", "results"]
     iconUrl := none
     rating := tenths 45
     installs := 38000
     installed := false },
   { id := "community.code_aster_wizard"
     name := "Code_Aster Setup Wizard"
     version := "2.0.3"
     author := "Hamid Bahai / Community"
     description := "Step-by-step wizard to configure Code_Aster FEA studies in SALOME."
     tags := ["aster", "fea", "wizard", "setup"]
     iconUrl := none
     rating := tenths 40
     installs := 14200
     installed := false },
   { id := "community.python_console_plus"
     name := "Python Console+"
     version := "1.1.0"
     author := "Community"
     description := "Enhanced Python console with auto-completion and history search."
     tags := ["python", "console", "scripting", "ide"]
     iconUrl := none
     rating := tenths 44
     installs := 22000
     installed := false },
   { id := "salome.documentation"
     name := "Documentation Browser"
     version := "9.11.0"
     author := "CEA/DEN"
     description := "Integrated offline documentation browser for all SALOME modules."
     tags := ["documentation", "help", "browser"]
     iconUrl := none
     rating := tenths 40
     installs := 55000
     installed := false }
  ]

end ExtensionCatalogue.Catalog
