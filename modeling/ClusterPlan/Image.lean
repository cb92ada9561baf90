/-!
# Images

The nodes run one image. It is named by a release of k3s, and the release `latest` is looked up.
-/

namespace ClusterPlan

/-- The repository of the images. -/
def imageRepository : String := "docker.io/rancher/k3s"

/-- The release that clusters run if no image is given. -/
def pinnedRelease : String := "v1.18.6-k3s1"

/-- The image of a release. -/
def imageOf (release : String) : String :=
  s!"{imageRepository}:{release}"

/-- The image of the pinned release. -/
def defaultImage : String :=
  imageOf pinnedRelease

end ClusterPlan
